import LearningMap.Id

/-!
# Arithmetic in words

Identifiers and seconds are held in words of 64 bits with a sign. An operation overflows when no
word holds its result; then it has none.
-/

namespace LearningMap

inductive Overflow where
  | negation
  | sum
  | product
  deriving DecidableEq

def Overflow.message : Overflow → String
  | negation => "attempt to negate with overflow"
  | sum => "attempt to add with overflow"
  | product => "attempt to multiply with overflow"

namespace Word

def hold (operation : Overflow) (n : Int) : Except Overflow Int :=
  if Id.fits n then .ok n else .error operation

def neg (a : Int) : Except Overflow Int := hold .negation (-a)

def add (a b : Int) : Except Overflow Int := hold .sum (a + b)

def mul (a b : Int) : Except Overflow Int := hold .product (a * b)

theorem hold_eq_ok_iff {operation : Overflow} {n m : Int} :
    hold operation n = .ok m ↔ n = m ∧ Id.fits n = true := by
  grind [hold]

end Word

end LearningMap
