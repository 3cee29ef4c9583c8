import LearningMap.Id
import LearningMap.Json.Printer
import Mathlib.Data.Char
import Mathlib.Data.List.TakeWhile
import Mathlib.Data.Nat.Cast.Order.Basic

/-!
# Whole numbers as they are written

A whole number is written in decimal digits, with a minus sign in front of it if need be. A literal
of such characters stands for the number again, as long as it is one of a word of 64 bits.
-/

namespace LearningMap.Json

/-- A whole number that is read exactly: it fits a word of 64 bits, with or without a sign. -/
def IsWord (n : Int) : Prop := -0x8000000000000000 ≤ n ∧ n < 0x10000000000000000

theorem isWord_of_fits {n : Id} (fits : Id.fits n = true) : IsWord n := by
  rw [Id.fits_iff] at fits
  unfold IsWord
  omega

theorem le_ofDigitChars (n : Nat) (cs : List Char) : n ≤ Nat.ofDigitChars 10 cs n := by
  induction cs generalizing n with
  | nil => exact le_rfl
  | cons c cs ih =>
    have longer := ih (10 * n + (c.toNat - '0'.toNat))
    rw [Nat.ofDigitChars_cons]
    omega

/-- Below the limit all digits are taken. -/
theorem absorb_of_lt {limit n : Nat} {cs : List Char} (below : Nat.ofDigitChars 10 cs n < limit) :
    Literal.absorb limit n cs = (Nat.ofDigitChars 10 cs n, []) := by
  induction cs generalizing n with
  | nil => rfl
  | cons c cs ih =>
    rw [Nat.ofDigitChars_cons, Nat.mul_comm] at below ⊢
    have next := (le_ofDigitChars _ cs).trans_lt below
    simp only [Literal.absorb, if_pos next, ih below]

theorem isDigit_of_mem_toDigits {n : Nat} {c : Char} (hc : c ∈ Nat.toDigits 10 n) :
    c.isDigit = true :=
  Nat.isDigit_of_mem_toDigits (by decide) (by decide) hc

/-- The digits of a number other than zero start with one that is not zero. -/
theorem toDigits_eq_cons {n : Nat} (pos : 0 < n) :
    ∃ c cs, Nat.toDigits 10 n = c :: cs ∧ c ≠ '0' := by
  induction n using Nat.strong_induction_on with
  | _ n ih =>
    rw [Nat.toDigits_eq_if (by decide)]
    by_cases small : n < 10
    · have nonzero : ∀ d < 10, 0 < d → Nat.digitChar d ≠ '0' := by decide
      exact ⟨_, [], if_pos small, nonzero n small pos⟩
    · obtain ⟨c, cs, digits, nonzero⟩ := ih (n / 10) (by omega) (by omega)
      exact ⟨c, cs ++ [(n % 10).digitChar], by rw [if_neg small, digits, List.cons_append], nonzero⟩

theorem ofChars_toDigits (n : Nat) :
    Literal.ofChars (Nat.toDigits 10 n) = ⟨false, Nat.toDigits 10 n, [], false, []⟩ := by
  have digits : ∀ c ∈ Nat.toDigits 10 n, c.isDigit = true := fun c hc => isDigit_of_mem_toDigits hc
  have unsigned : (Nat.toDigits 10 n).head? ≠ some '-' := fun minus =>
    absurd (digits '-' (List.mem_of_head? minus)) (by decide)
  simp [Literal.ofChars, unsigned, List.dropWhile_eq_nil_iff.mpr digits,
    List.takeWhile_eq_self_iff.mpr digits]

theorem ofChars_minus_toDigits (n : Nat) :
    Literal.ofChars ('-' :: Nat.toDigits 10 n) = ⟨true, Nat.toDigits 10 n, [], false, []⟩ := by
  have digits : ∀ c ∈ Nat.toDigits 10 n, c.isDigit = true := fun c hc => isDigit_of_mem_toDigits hc
  simp [Literal.ofChars, List.dropWhile_eq_nil_iff.mpr digits,
    List.takeWhile_eq_self_iff.mpr digits]

theorem ofLiteral_wholeDigits {n : Int} (word : IsWord n) :
    Number.ofLiteral (wholeDigits n) = .ok (.whole n) := by
  unfold IsWord at word
  have absorbed : ∀ k : Nat, k < 0x10000000000000000 →
      Literal.absorb 0x10000000000000000 0 (Nat.toDigits 10 k) = (k, []) := by
    intro k below
    rw [absorb_of_lt (by rwa [Nat.ofDigitChars_ten_toDigits]), Nat.ofDigitChars_ten_toDigits]
  cases n with
  | ofNat k =>
    simp [Number.ofLiteral, wholeDigits, ofChars_toDigits, Literal.whole?,
      absorbed k (by simp at word; omega)]
  | negSucc k =>
    have small : k + 1 ≤ 0x8000000000000000 := by omega
    simp [Number.ofLiteral, wholeDigits, ofChars_minus_toDigits, Literal.whole?,
      absorbed (k + 1) (by omega), small]
    omega

end LearningMap.Json
