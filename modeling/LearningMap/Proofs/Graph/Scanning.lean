import LearningMap.Proofs.Graph.Closure

/-!
# Which rules a visit has to check

Propagation checks every rule of the map on its first visit and later only the rules that a visit
has touched. Once every earned rule is recorded, the other rules need no check: what a visit records
is the same under both scans, in the same order, and so are the visits that follow.
-/

namespace LearningMap

namespace Snapshot

variable {s : Snapshot}

theorem eq_of_ascending {rs qs : List Rule} (first : rs.Pairwise (·.id < ·.id))
    (second : qs.Pairwise (·.id < ·.id)) (same : ∀ r, r ∈ rs ↔ r ∈ qs) : rs = qs := by
  have nodup : ∀ {rs : List Rule}, rs.Pairwise (·.id < ·.id) → rs.Nodup := fun h =>
    h.imp fun lt eq => absurd (congrArg Rule.id eq) (ne_of_lt lt)
  have perm := (List.perm_ext_iff_of_nodup (nodup first) (nodup second)).mpr same
  exact perm.eq_of_pairwise (fun _ _ _ _ lt gt => absurd gt (lt_asymm lt)) first second

/-- What is newly satisfied comes in the order of identifiers, so its members decide it. -/
theorem newlySatisfied_congr (keyed : s.RulesKeyed) {candidates others : IdSet}
    (same : ∀ r, r ∈ s.newlySatisfied candidates ↔ r ∈ s.newlySatisfied others) :
    s.newlySatisfied candidates = s.newlySatisfied others :=
  eq_of_ascending (newlySatisfied_sorted keyed candidates) (newlySatisfied_sorted keyed others) same

/-- A rule that the full scan of a visit finds is one that the visit has touched, if no earned rule
was unrecorded before. -/
theorem mem_touched_of_mem_everything (wf : s.WellFormed) (saturated : s.Saturated) {n : Id}
    {r : Rule} (hr : r ∈ (s.visit .everything n).recorded) : r ∈ (s.visit .touched n).recorded := by
  obtain ⟨found, fresh, earned⟩ := mem_recorded_visit wf hr
  have step := visit_extends wf .touched n
  have recorded := saturated_visit wf .touched n (fun _ => saturated)
    (rules_eq_of_graph step.graph_eq ▸ found) (earned_eq_of_graph step.graph_eq ▸ earned)
  exact step.mem_recorded.mpr ⟨found, fresh, recorded⟩

theorem visit_eq_everything (wf : s.WellFormed) (saturated : s.Saturated) (scan : Scan) (n : Id) :
    s.visit scan n = s.visit .everything n := by
  cases scan with
  | everything => rfl
  | touched =>
    have same : (s.visit .touched n).recorded = (s.visit .everything n).recorded := by
      have wf' : (s.resolve (s.fresh n)).WellFormed := wf.of_graph rfl
      refine newlySatisfied_congr wf'.rulesKeyed fun r => ?_
      constructor
      · intro hr
        obtain ⟨⟨i, -, found⟩, unrecorded, earned⟩ := mem_newlySatisfied.mp hr
        exact mem_allNewlySatisfied.mpr ⟨⟨i, found⟩, unrecorded, earned⟩
      · exact mem_touched_of_mem_everything wf saturated
    unfold visit at same ⊢
    simp only [Run.mk.injEq, true_and]
    exact ⟨congrArg (s.resolve (s.fresh n)).record same, same⟩

end Snapshot

namespace Worklist

variable {later : Scan} {w v : Worklist}

def full (w : Worklist) : Worklist := { w with scan := .everything }

theorem take?_full (wf : w.run.snapshot.WellFormed) (saturated : w.run.snapshot.Saturated)
    (taken : w.take? later = some v) :
    w.full.take? .everything = some v.full ∧ v.run.snapshot.WellFormed ∧
      v.run.snapshot.Saturated := by
  obtain ⟨node, queue, next, ⟨seen, rfl⟩ | ⟨unseen, rfl⟩⟩ := take?_cases taken
  · exact ⟨by simp only [take?, full, next, if_pos seen], wf, saturated⟩
  · refine ⟨?_, wf.of_graph rfl, Snapshot.saturated_visit wf w.scan node fun _ => saturated⟩
    simp only [take?, full, next, if_neg unseen, ← Snapshot.visit_eq_everything wf saturated w.scan]

theorem finish_full (wf : w.run.snapshot.WellFormed) (saturated : w.run.snapshot.Saturated) :
    w.full.finish .everything = w.finish later := by
  fun_induction finish later w with
  | case1 w ended =>
    have empty : w.queue = [] := take?_eq_none_iff.mp ended
    exact finish_of_ended (w := w.full) empty
  | case2 w v taken ih =>
    obtain ⟨full_taken, wf', saturated'⟩ := take?_full wf saturated taken
    rw [finish_of_taken full_taken]
    exact ih wf' saturated'

end Worklist

namespace Snapshot

variable {s : Snapshot}

/-- Propagation stores what the plain form stores that checks every rule on every visit: the same
rows in the same order, the same activated nodes and the same snapshot. -/
theorem propagate_eq_propagateByFullScan (h : s.Arises) (seeds : List Id) (scope : Scope)
    (now : Timestamp) : s.propagate seeds scope now = s.propagateByFullScan seeds scope now := by
  have wf := h.wellFormed
  have same : s.run seeds = (Worklist.start s seeds).finish .everything := by
    cases seeds with
    | nil =>
      rw [run_nil, Worklist.finish_of_ended rfl]
      rfl
    | cons n seeds =>
      have saturated : (s.visit .everything n).snapshot.Saturated :=
        saturated_visit wf .everything n nofun
      calc s.run (n :: seeds) = _ := Worklist.finish_of_taken rfl
        _ = _ := (Worklist.finish_full (wf.of_graph rfl) saturated).symm
        _ = (Worklist.start s (n :: seeds)).finish .everything :=
          (Worklist.finish_of_taken rfl).symm
  rw [propagate_eq, propagateByFullScan, same]

/-- A map on which an earlier call left a rule satisfied and unrecorded. -/
def leftover : Snapshot :=
  build 1 [⟨10, 1, 1, 100, 2⟩, ⟨11, 1, 2, 101, 3⟩, ⟨12, 1, 4, 102, 5⟩]
    [⟨100, 1, 2⟩, ⟨101, 1, 3⟩, ⟨102, 1, 5⟩] [12] []

theorem propagate_eq_propagateByFullScan_on_leftover :
    leftover.Arises ∧
      leftover.propagate [1] (.solo 7) default = leftover.propagateByFullScan [1] (.solo 7) default := by
  have arises : leftover.Arises := .build 1 _ _ _ (by decide)
  exact ⟨arises, propagate_eq_propagateByFullScan arises [1] (.solo 7) default⟩

end Snapshot

end LearningMap
