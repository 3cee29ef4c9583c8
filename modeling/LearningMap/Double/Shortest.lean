import LearningMap.Double.Basic

/-!
# The fewest digits of a number

All numbers of an interval around a number of double precision round to it. It is written with the
fewest decimal digits that lie in there; of two such decimals it is the nearer one.
-/

namespace LearningMap

/-- The decimal number `digits * 10 ^ exponent`. -/
structure Decimal where
  digits : Nat
  exponent : Int
  deriving DecidableEq

namespace Decimal

def length (n : Nat) : Nat := (Nat.toDigits 10 n).length

def fraction (d : Decimal) : Nat × Nat :=
  if 0 ≤ d.exponent then (d.digits * Nat.pow 10 d.exponent.toNat, 1)
  else (d.digits, Nat.pow 10 (-d.exponent).toNat)

def strip : Nat → Decimal → Decimal
  | 0, d => d
  | n + 1, d =>
    if d.digits ≠ 0 ∧ d.digits % 10 = 0 then strip n ⟨d.digits / 10, d.exponent + 1⟩ else d

end Decimal

namespace Double

/-- A fourth of the distance to the next number, and the number itself in this measure. Below the
least significand of all bits the next number is only half as far. -/
def quarters (x : Double) : Nat × Nat × Nat :=
  let below :=
    if x.significand = Nat.pow 2 (precision - 1) ∧ leastExponent < x.exponent then 1 else 2
  (4 * x.significand - below, 4 * x.significand, 4 * x.significand + 2)

def measured (x : Double) (d : Decimal) : Nat × Nat :=
  shifted d.fraction.1 d.fraction.2 (x.exponent - 2)

/-- Whether a decimal number rounds to a number. The ends of the interval do so when the significand
is even. -/
def readsBack (x : Double) (d : Decimal) : Bool :=
  let (low, _, high) := x.quarters
  let (n, k) := x.measured d
  if x.significand % 2 = 0 then low * k ≤ n ∧ n ≤ high * k else low * k < n ∧ n < high * k

def leading (x : Double) : Int :=
  let (n, d) := x.fraction
  if d ≤ n then Decimal.length (n / d) - 1 else -Decimal.length ((d - 1) / n)

/-- The decimal with so many digits that is nearest to a number, among the two around it, if it
rounds to the number. Of two that are equally near it is the even one. -/
def withDigits? (x : Double) (count : Nat) : Option Decimal :=
  let exponent : Int := x.leading - count + 1
  let (n, d) := x.fraction
  let (n, d) :=
    if 0 ≤ exponent then (n, d * Nat.pow 10 exponent.toNat)
    else (n * Nat.pow 10 (-exponent).toNat, d)
  let below : Decimal := ⟨n / d, exponent⟩
  let above : Decimal := ⟨n / d + 1, exponent⟩
  let nearest := if roundDiv n d = n / d then below else above
  if x.readsBack nearest then some nearest
  else if x.readsBack below then some below
  else if x.readsBack above then some above
  else none

/-- The decimal with the fewest digits that rounds to a number. Seventeen digits are always
enough. -/
def shortest (x : Double) : Decimal :=
  if x.significand = 0 then ⟨0, 0⟩
  else (((List.range' 1 17).findSome? x.withDigits?).getD ⟨0, 0⟩).strip 17

end Double

end LearningMap
