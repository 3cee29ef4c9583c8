import LearningMap.Double.Basic

/-!
# JSON numbers

A number keeps whether it was written as a whole number: only those are identifiers or counts. Any
other is read into double precision, in a few steps that round one after another: its digits are one
whole number, as far as a word of 64 bits holds them, and this is multiplied or divided by powers of
ten. So the result can be some units away from the number nearest to what was written.
-/

namespace LearningMap.Json

inductive Number where
  /-- Written with digits only, and an optional minus sign before a number other than zero. -/
  | whole (n : Int)
  /-- Written with a fraction or an exponent, as minus zero, or beyond 64 bits. -/
  | double (negative : Bool) (magnitude : Double)
  deriving DecidableEq

inductive Halt where
  | behind
  | within
  deriving DecidableEq

inductive NumberState where
  | minus
  | zero
  | whole
  | point
  | fraction
  | exponent
  | exponentSign
  | exponentDigits
  deriving DecidableEq

namespace NumberState

def complete : NumberState → Bool
  | zero | whole | fraction | exponentDigits => true
  | minus | point | exponent | exponentSign => false

def next? (s : NumberState) (c : Char) : Option NumberState :=
  match s with
  | minus => if c = '0' then some zero else if c.isDigit then some whole else none
  | zero => if c = '.' then some point else if c = 'e' ∨ c = 'E' then some exponent else none
  | whole =>
    if c.isDigit then some whole else if c = '.' then some point
    else if c = 'e' ∨ c = 'E' then some exponent else none
  | point => if c.isDigit then some fraction else none
  | fraction =>
    if c.isDigit then some fraction else if c = 'e' ∨ c = 'E' then some exponent else none
  | exponent =>
    if c.isDigit then some exponentDigits else if c = '+' ∨ c = '-' then some exponentSign else none
  | exponentSign => if c.isDigit then some exponentDigits else none
  | exponentDigits => if c.isDigit then some exponentDigits else none

end NumberState

structure Literal where
  negative : Bool
  whole : List Char
  fraction : List Char
  small : Bool
  exponent : List Char

namespace Literal

def ofChars (cs : List Char) : Literal :=
  let negative := cs.head? == some '-'
  let unsigned := if negative then cs.drop 1 else cs
  let rest := unsigned.dropWhile Char.isDigit
  let fraction := if rest.head? == some '.' then (rest.drop 1).takeWhile Char.isDigit else []
  let exponent := (rest.dropWhile fun c => c ≠ 'e' ∧ c ≠ 'E').drop 1
  ⟨negative, unsigned.takeWhile Char.isDigit, fraction, exponent.head? == some '-',
    exponent.filter Char.isDigit⟩

/-- Takes digits to the end of a number as long as it stays below a limit: the number, and the
digits that are left. -/
def absorb (limit n : Nat) : List Char → Nat × List Char
  | [] => (n, [])
  | c :: cs =>
    let longer := n * 10 + (c.toNat - '0'.toNat)
    if longer < limit then absorb limit longer cs else (n, c :: cs)

/-- The digits of a literal as one number of a word, and the power of ten that it is multiplied by
before the exponent. Digits that the word has no place for raise the power if they stand before the
point, and count for nothing after it. -/
def digits (l : Literal) : Nat × Int :=
  let (n, dropped) := absorb 0x10000000000000000 0 l.whole
  let (m, left) := absorb 0x10000000000000000 n l.fraction
  (m, dropped.length - (l.fraction.length - left.length))

def step : Nat := 308

def scale? (x : Double) (power : Int) : Option Double :=
  if _h : step < power.natAbs then
    if x.significand = 0 then some x
    else if 0 < power then none
    else do
      let y ← x.div? (← Double.ofNat? (Nat.pow 10 step))
      scale? y (power + step)
  else do
    let ten ← Double.ofNat? (Nat.pow 10 power.natAbs)
    if 0 ≤ power then x.mul? ten else x.div? ten
termination_by power.natAbs
decreasing_by unfold step at *; omega

/-- The number of double precision that a literal stands for, without its sign, unless it is too
large. An exponent beyond words of 32 bits makes any number zero or too large; a reader gives up at
the digit that takes it there. -/
def magnitude (l : Literal) : Except Halt Double :=
  let (n, power) := l.digits
  let (exponent, left) := absorb 0x80000000 0 l.exponent
  let power := if l.small then power - exponent else power + exponent
  match left with
  | [] => (Double.ofNat? n).bind (scale? · power) |>.elim (.error .behind) .ok
  | _ :: more =>
    if n = 0 || l.small then .ok .zero
    else .error (if more.isEmpty then .behind else .within)

def whole? (l : Literal) : Option Int :=
  let (n, dropped) := absorb 0x10000000000000000 0 l.whole
  if !l.fraction.isEmpty || !l.exponent.isEmpty || !dropped.isEmpty then none
  else if !l.negative then some n
  else if 0 < n ∧ n ≤ 0x8000000000000000 then some (-n)
  else none

end Literal

def Number.ofLiteral (cs : List Char) : Except Halt Number :=
  let l := Literal.ofChars cs
  match l.whole? with
  | some n => .ok (.whole n)
  | none => l.magnitude.map (.double l.negative)

end LearningMap.Json
