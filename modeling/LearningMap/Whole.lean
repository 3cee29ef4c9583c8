import LearningMap.Id

/-!
# Reading whole numbers

A whole number of a bounded range is written in decimal digits, with an optional sign: plus always,
minus only where the range has negative numbers. Reading stops at the first character that is no
digit, or that takes the number out of its range.
-/

namespace LearningMap

inductive WholeFault where
  | empty
  | invalidDigit
  | tooLarge
  | tooSmall
  deriving DecidableEq

def WholeFault.name : WholeFault → String
  | empty => "Empty"
  | invalidDigit => "InvalidDigit"
  | tooLarge => "PosOverflow"
  | tooSmall => "NegOverflow"

namespace Whole

/-- Reads digits after a number read so far; with `sign` minus one they take it down. -/
def readDigits (least greatest sign value : Int) : List Char → Except WholeFault Int
  | [] => .ok value
  | c :: cs =>
    if c.isDigit then
      let value := value * 10 + sign * (c.toNat - '0'.toNat : Nat)
      if greatest < value then .error .tooLarge
      else if value < least then .error .tooSmall
      else readDigits least greatest sign value cs
    else .error .invalidDigit

def read (least greatest : Int) (s : String) : Except WholeFault Int :=
  match s.toList with
  | [] => .error .empty
  | ['+'] => .error .invalidDigit
  | ['-'] => .error .invalidDigit
  | '+' :: cs => readDigits least greatest 1 0 cs
  | c :: cs =>
    if c = '-' ∧ least < 0 then readDigits least greatest (-1) 0 cs
    else readDigits least greatest 1 0 (c :: cs)

end Whole

def Id.ofText? (s : String) : Option Id := (Whole.read least greatest s).toOption

end LearningMap
