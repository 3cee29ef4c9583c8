import LearningMap.Proofs.Graph.Scanning
import Mathlib.Data.List.Destutter
import Mathlib.Data.List.Permutation

/-!
# Looking up candidates is restricting the full scan

The rules to check are given one after another, in any order, and may be named more than once or not
be rules of the map. They are put into order, each is kept once, looked up and checked. What comes
out is what the check of all rules finds, as far as it was asked for.
-/

namespace LearningMap

theorem mem_destutter'_ne {a c : Id} {is : List Id} :
    c ∈ is.destutter' (· ≠ ·) a ↔ c = a ∨ c ∈ is := by
  induction is generalizing a with
  | nil => simp
  | cons b is ih =>
    by_cases other : a ≠ b
    · rw [List.destutter'_cons_pos _ other, List.mem_cons, ih, List.mem_cons]
    · rw [List.destutter'_cons_neg _ other, ih, List.mem_cons, not_not.mp other]
      grind

theorem mem_destutter_ne {c : Id} {is : List Id} : c ∈ is.destutter (· ≠ ·) ↔ c ∈ is := by
  cases is with
  | nil => simp
  | cons a is => rw [List.destutter_cons', mem_destutter'_ne, List.mem_cons]

theorem isChain_lt {is : List Id} (sorted : is.Pairwise (· ≤ ·)) (differ : is.IsChain (· ≠ ·)) :
    is.IsChain (· < ·) := by
  induction differ with
  | nil => exact .nil
  | singleton i => exact .singleton i
  | cons_cons ne _ ih =>
    have le := List.rel_of_pairwise_cons sorted List.mem_cons_self
    exact .cons_cons (lt_of_le_of_ne le ne) (ih sorted.of_cons)

namespace IdSet

theorem toList_ofList (is : List Id) :
    (ofList is).toList = (is.mergeSort fun i j => i ≤ j).destutter (· ≠ ·) := by
  have ascending : ((is.mergeSort fun i j => i ≤ j).destutter (· ≠ ·)).Pairwise (· < ·) := by
    refine (isChain_lt ?_ (List.isChain_destutter (· ≠ ·) _)).pairwise
    exact (pairwise_mergeSort_key (fun i : Id => i) is).sublist (List.destutter_sublist (· ≠ ·) _)
  have listed : (ofList is).toList.Pairwise (· < ·) :=
    Std.ExtTreeSet.ordered_toList.imp Std.compare_eq_lt.mp
  refine List.Perm.eq_of_pairwise (fun _ _ _ _ lt gt => absurd gt (lt_asymm lt)) listed ascending ?_
  rw [List.perm_ext_iff_of_nodup listed.nodup ascending.nodup]
  intro i
  rw [Std.ExtTreeSet.mem_toList, mem_ofList, mem_destutter_ne, List.mem_mergeSort]

end IdSet

namespace Snapshot

variable {s : Snapshot}

/-- The satisfied rules among candidates that are given one after another. -/
def newlySatisfiedOf (s : Snapshot) (candidates : List Id) : List Rule :=
  let inOrder := (candidates.mergeSort fun i j => i ≤ j).destutter (· ≠ ·)
  let live := inOrder.filterMap (s.rules[·]?)
  let unrecorded := live.filter (·.id ∉ s.progress.rules)
  unrecorded.filter fun r => s.satisfied r.id

theorem newlySatisfiedOf_eq (s : Snapshot) (candidates : List Id) :
    s.newlySatisfiedOf candidates = s.newlySatisfied (.ofList candidates) := by
  simp only [newlySatisfiedOf, newlySatisfied, IdSet.toList_ofList, List.filter_filter]
  refine List.filter_congr fun r _ => ?_
  rw [Bool.eq_iff_iff]
  simp [and_comm]

theorem newlySatisfied_eq_filter (keyed : s.RulesKeyed) (candidates : IdSet) :
    s.newlySatisfied candidates = s.allNewlySatisfied.filter (·.id ∈ candidates) := by
  refine eq_of_ascending (newlySatisfied_sorted keyed candidates)
    ((newlySatisfied_sorted keyed _).filter _) fun r => ?_
  rw [List.mem_filter, decide_eq_true_eq, mem_newlySatisfied, mem_allNewlySatisfied]
  constructor
  · rintro ⟨⟨i, candidate, found⟩, rest⟩
    exact ⟨⟨⟨i, found⟩, rest⟩, keyed i r found ▸ candidate⟩
  · rintro ⟨⟨⟨i, found⟩, rest⟩, candidate⟩
    exact ⟨⟨i, keyed i r found ▸ candidate, found⟩, rest⟩

/-- What a check has found is not found again once it is recorded. -/
theorem newlySatisfied_record (s : Snapshot) (candidates : IdSet) :
    (s.record (s.newlySatisfied candidates)).newlySatisfied candidates = [] := by
  rw [List.eq_nil_iff_forall_not_mem]
  intro r again
  obtain ⟨found, unrecorded, earned⟩ := mem_newlySatisfied.mp again
  rw [mem_rules_record, not_or] at unrecorded
  have before : r ∈ s.newlySatisfied candidates :=
    mem_newlySatisfied.mpr ⟨found, unrecorded.1, earned⟩
  exact unrecorded.2 ⟨r, before, rfl⟩

/-- A check of candidates finds what the check of all rules finds among them, in the strict order of
ids. It only matters which candidates there are, not how often or in which order they are named.
Once what it found is recorded, the same check finds nothing. -/
theorem newlySatisfiedOf_restricts (keyed : s.RulesKeyed) (candidates : List Id) :
    s.newlySatisfiedOf candidates = s.newlySatisfied (.ofList candidates) ∧
    s.newlySatisfiedOf candidates = s.allNewlySatisfied.filter (·.id ∈ candidates) ∧
    (s.newlySatisfiedOf candidates).Pairwise (·.id < ·.id) ∧
    (∀ others : List Id, (∀ i, i ∈ others ↔ i ∈ candidates) →
      s.newlySatisfiedOf others = s.newlySatisfiedOf candidates) ∧
    (s.record (s.newlySatisfiedOf candidates)).newlySatisfiedOf candidates = [] := by
  simp only [newlySatisfiedOf_eq]
  refine ⟨trivial, ?filter, newlySatisfied_sorted keyed _, ?others, newlySatisfied_record s _⟩
  case filter =>
    rw [newlySatisfied_eq_filter keyed]
    simp only [IdSet.mem_ofList]
  case others =>
    intro others same
    congr 1
    rw [IdSet.ext_iff]
    intro i
    rw [IdSet.mem_ofList, IdSet.mem_ofList, same]

/-- A map on which two nodes have gained three rules, none of which is recorded. -/
def harvest : Snapshot :=
  build 1 [⟨10, 1, 1, 100, 2⟩, ⟨11, 1, 1, 101, 3⟩, ⟨12, 1, 2, 102, 3⟩]
    [⟨102, 1, 3⟩, ⟨100, 1, 2⟩, ⟨101, 1, 3⟩] [10, 11, 12] []

theorem newlySatisfiedOf_restricts_on_harvest :
    harvest.RulesKeyed ∧
    harvest.newlySatisfiedOf [102, 100, 999, 102] = [⟨100, 1, 2⟩, ⟨102, 1, 3⟩] ∧
    harvest.newlySatisfiedOf [102, 100, 999, 102] =
      harvest.allNewlySatisfied.filter (·.id ∈ ([102, 100, 999, 102] : List Id)) ∧
    harvest.newlySatisfiedOf [100, 102, 999] = harvest.newlySatisfiedOf [102, 100, 999, 102] ∧
    (harvest.record [⟨100, 1, 2⟩, ⟨102, 1, 3⟩]).newlySatisfiedOf [102, 100, 999, 102] = [] := by
  have keyed : harvest.RulesKeyed := (build_wellFormed 1 _ _ _ (by decide)).rulesKeyed
  have found : harvest.newlySatisfiedOf [102, 100, 999, 102] = [⟨100, 1, 2⟩, ⟨102, 1, 3⟩] := by cbv
  obtain ⟨-, filter, -, others, again⟩ := newlySatisfiedOf_restricts keyed [102, 100, 999, 102]
  refine ⟨keyed, found, filter, others [100, 102, 999] (by grind), ?_⟩
  rwa [found] at again

end Snapshot

end LearningMap
