/-!
# Numbers of double precision

A number of double precision is a significand of at most 53 bits and a power of two. Every result is
the number nearest to the exact one; of two that are equally near it is the one whose significand is
even. Results are computed exactly, as fractions, and rounded once. Signs are kept elsewhere.
-/

namespace LearningMap

/-- The number `significand * 2 ^ exponent`. The significand has all 53 bits, unless the exponent is
the least one. -/
structure Double where
  significand : Nat
  exponent : Int
  deriving DecidableEq

/-- The quotient of two numbers to the nearest whole number; a half goes to the even one. -/
def roundDiv (a b : Nat) : Nat :=
  if b < 2 * (a % b) ∨ b = 2 * (a % b) ∧ a / b % 2 = 1 then a / b + 1 else a / b

namespace Double

def precision : Nat := 53

def leastExponent : Int := -1074

def greatestExponent : Int := 971

def zero : Double := ⟨0, leastExponent⟩

def shifted (num den : Nat) (exponent : Int) : Nat × Nat :=
  if 0 ≤ exponent then (num, den * Nat.pow 2 exponent.toNat)
  else (num * Nat.pow 2 (-exponent).toNat, den)

/-- The exponent at which a fraction has a significand of all bits. The numbers of bits of its two
parts tell it but for one. -/
def exponentOf (num den : Nat) : Int :=
  let guess : Int := (num.log2 : Int) - den.log2 - (precision - 1)
  let (n, d) := shifted num den guess
  max leastExponent (if n / d < Nat.pow 2 (precision - 1) then guess - 1 else guess)

/-- The number nearest to a fraction; none when that would be too large. -/
def ofFraction? (num den : Nat) : Option Double :=
  if num = 0 then some zero
  else
    let exponent := exponentOf num den
    let (n, d) := shifted num den exponent
    let m := roundDiv n d
    let x : Double :=
      if m = Nat.pow 2 precision then ⟨Nat.pow 2 (precision - 1), exponent + 1⟩ else ⟨m, exponent⟩
    if x.exponent ≤ greatestExponent then some x else none

def fraction (x : Double) : Nat × Nat :=
  if 0 ≤ x.exponent then (x.significand * Nat.pow 2 x.exponent.toNat, 1)
  else (x.significand, Nat.pow 2 (-x.exponent).toNat)

def ofNat? (n : Nat) : Option Double := ofFraction? n 1

def mul? (x y : Double) : Option Double :=
  ofFraction? (x.fraction.1 * y.fraction.1) (x.fraction.2 * y.fraction.2)

def div? (x y : Double) : Option Double :=
  ofFraction? (x.fraction.1 * y.fraction.2) (x.fraction.2 * y.fraction.1)

end Double

end LearningMap
