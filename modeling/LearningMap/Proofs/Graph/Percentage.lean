import LearningMap.Graph.Status
import LearningMap.Proofs.Graph.Run
import LearningMap.Word
import Mathlib.Algebra.Order.Floor.Semifield
import Mathlib.Data.List.Permutation
import Mathlib.Data.Rat.Floor

/-!
# Percentages and satisfaction

How far a scope is with a rule is shown in whole percent, rounded down, and kept in a byte. The
rounding loses nothing that matters: the percentage is a hundred exactly if the rule is satisfied,
and it never falls while more arrows are resolved.
-/

namespace LearningMap

/-- The percentage as it is computed with numbers below `2 ^ bits`: the product may overflow, and of
the quotient only the last eight bits are kept. -/
def percentageByte (bits completed total : Nat) : Except Overflow UInt8 :=
  if total = 0 then .ok 0
  else if completed * 100 < 2 ^ bits then .ok (UInt8.ofNat (completed * 100 / total))
  else .error .product

namespace RuleProgress

/-- A count of resolved arrows goes with its percentage, and a byte holds the percentage. -/
structure Exact (bits : Nat) (p : RuleProgress) : Prop where
  completed_le : p.completed ≤ p.total
  percentage_eq : p.percentage = ⌊(100 * p.completed : ℚ) / p.total⌋₊
  percentage_of_empty : p.total = 0 → p.percentage = 0
  percentage_le : p.percentage ≤ 100
  percentage_lt : p.completed < p.total → p.percentage < 100
  byte : ∃ b, percentageByte bits p.completed p.total = .ok b ∧ b.toNat = p.percentage

end RuleProgress

section

variable (arrows resolved : IdSet)

theorem completed_le_total : (ruleProgress arrows resolved).completed ≤ arrows.size := by
  rw [← Std.ExtTreeSet.length_toList]
  exact List.countP_le_length

theorem percentage_of_empty (none : arrows.size = 0) :
    (ruleProgress arrows resolved).percentage = 0 :=
  Nat.div_eq_zero_iff.mpr (.inl none)

theorem percentage_le_hundred : (ruleProgress arrows resolved).percentage ≤ 100 := by
  apply Nat.div_le_of_le_mul
  exact Nat.mul_le_mul_right 100 (completed_le_total arrows resolved)

theorem percentage_lt_hundred
    (unfinished : (ruleProgress arrows resolved).completed < arrows.size) :
    (ruleProgress arrows resolved).percentage < 100 := by
  apply Nat.div_lt_of_lt_mul
  exact Nat.mul_lt_mul_of_pos_right unfinished (by decide)

theorem percentage_eq_floor :
    (ruleProgress arrows resolved).percentage =
      ⌊(100 * (ruleProgress arrows resolved).completed : ℚ) / arrows.size⌋₊ := by
  have exact := Nat.floor_div_eq_div (K := ℚ) ((ruleProgress arrows resolved).completed * 100)
    arrows.size
  rw [Nat.cast_mul, mul_comm, Nat.cast_ofNat] at exact
  exact exact.symm

theorem percentage_mono {more : IdSet} (sub : ∀ i ∈ resolved, i ∈ more) :
    (ruleProgress arrows resolved).percentage ≤ (ruleProgress arrows more).percentage := by
  have completed :
      (ruleProgress arrows resolved).completed ≤ (ruleProgress arrows more).completed :=
    List.countP_mono_left fun i _ hi => by simpa using sub i (of_decide_eq_true hi)
  exact Nat.div_le_div_right (Nat.mul_le_mul_right 100 completed)

/-- A percentage of a hundred says that there are arrows and that all of them are resolved. -/
theorem percentage_eq_hundred_iff :
    (ruleProgress arrows resolved).percentage = 100 ↔
      (∃ i, i ∈ arrows) ∧ ∀ i ∈ arrows, i ∈ resolved := by
  have all_resolved : (ruleProgress arrows resolved).completed = arrows.size ↔
      ∀ i ∈ arrows, i ∈ resolved := by
    rw [← Std.ExtTreeSet.length_toList, ruleProgress, List.countP_eq_length]
    simp
  have some_arrow : arrows.size ≠ 0 ↔ ∃ i, i ∈ arrows := by
    rw [← IdSet.isEmpty_eq_false_iff_exists, Std.ExtTreeSet.isEmpty_eq_size_beq_zero]
    simp
  rw [← all_resolved, ← some_arrow]
  constructor
  · intro hundred
    constructor
    · intro none
      rw [percentage_of_empty arrows resolved none] at hundred
      exact absurd hundred (by decide)
    · by_contra unfinished
      have lt := lt_of_le_of_ne (completed_le_total arrows resolved) unfinished
      exact (percentage_lt_hundred arrows resolved lt).ne hundred
  · rintro ⟨some_total, all⟩
    change (ruleProgress arrows resolved).completed * 100 / arrows.size = 100
    rw [all]
    exact Nat.mul_div_cancel_left 100 (Nat.pos_of_ne_zero some_total)

theorem percentageByte_eq {bits : Nat} (fits : 100 * arrows.size < 2 ^ bits) :
    ∃ b, percentageByte bits (ruleProgress arrows resolved).completed arrows.size = .ok b ∧
      b.toNat = (ruleProgress arrows resolved).percentage := by
  have le := completed_le_total arrows resolved
  unfold percentageByte
  by_cases none : arrows.size = 0
  · exact ⟨0, if_pos none, (percentage_of_empty arrows resolved none).symm⟩
  · have small : (ruleProgress arrows resolved).completed * 100 < 2 ^ bits := by omega
    refine ⟨_, by rw [if_neg none, if_pos small], ?_⟩
    apply UInt8.toNat_ofNat_of_lt
    exact (percentage_le_hundred arrows resolved).trans_lt (by decide)

theorem exact_ruleProgress {bits : Nat} (fits : 100 * arrows.size < 2 ^ bits) :
    (ruleProgress arrows resolved).Exact bits where
  completed_le := completed_le_total arrows resolved
  percentage_eq := percentage_eq_floor arrows resolved
  percentage_of_empty := percentage_of_empty arrows resolved
  percentage_le := percentage_le_hundred arrows resolved
  percentage_lt := percentage_lt_hundred arrows resolved
  byte := percentageByte_eq arrows resolved fits

end

namespace Snapshot

/-- What is shown of a rule is exact, and does not fall when more arrows are resolved. On a snapshot
it is a hundred percent exactly if the rule is satisfied, so neither a rule that lacks an arrow nor
a rule without arrows is shown as done. -/
theorem percentage_shows_satisfaction {bits : Nat} {arrows resolved more : IdSet}
    (fits : 100 * arrows.size < 2 ^ bits) (sub : ∀ i ∈ resolved, i ∈ more) :
    (ruleProgress arrows resolved).Exact bits ∧
    (ruleProgress arrows resolved).percentage ≤ (ruleProgress arrows more).percentage ∧
    ∀ (s : Snapshot) (rule : Id),
      (ruleProgress (s.ruleArrows rule) s.progress.arrows).percentage = 100 ↔
        s.satisfied rule = true := by
  refine ⟨exact_ruleProgress arrows resolved fits, percentage_mono arrows resolved sub, ?_⟩
  intro s rule
  rw [percentage_eq_hundred_iff, satisfied_iff]
  rfl

/-- Two of three arrows of a rule are resolved, and an arrow of another rule. -/
def crossing : Snapshot :=
  build 1 [⟨10, 1, 1, 100, 4⟩, ⟨11, 1, 2, 100, 4⟩, ⟨12, 1, 3, 100, 4⟩, ⟨99, 1, 1, 101, 5⟩]
    [⟨100, 1, 4⟩, ⟨101, 1, 5⟩] [10, 12, 99] []

theorem percentage_shows_satisfaction_at_crossing :
    100 * (crossing.ruleArrows 100).size < 2 ^ 9 ∧
    (∀ i ∈ crossing.progress.arrows, i ∈ IdSet.ofList [10, 11, 12, 99]) ∧
    (ruleProgress (crossing.ruleArrows 100) crossing.progress.arrows).Exact 9 ∧
    (ruleProgress (crossing.ruleArrows 100) crossing.progress.arrows).percentage = 66 ∧
    66 ≤ (ruleProgress (crossing.ruleArrows 100) (.ofList [10, 11, 12, 99])).percentage ∧
    ¬ crossing.satisfied 100 = true := by
  have fits : 100 * (crossing.ruleArrows 100).size < 2 ^ 9 := by cbv
  have sub : ∀ i ∈ crossing.progress.arrows, i ∈ IdSet.ofList [10, 11, 12, 99] := by
    simp only [crossing, progress_build, IdSet.mem_ofList]
    decide
  have shown :
      (ruleProgress (crossing.ruleArrows 100) crossing.progress.arrows).percentage = 66 := by cbv
  obtain ⟨exact, mono, satisfied⟩ := percentage_shows_satisfaction fits sub
  refine ⟨fits, sub, exact, shown, shown ▸ mono, ?_⟩
  rw [← satisfied crossing 100, shown]
  decide

end Snapshot

end LearningMap
