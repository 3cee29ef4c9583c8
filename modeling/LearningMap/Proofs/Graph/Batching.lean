import LearningMap.Proofs.Graph.Closure

/-!
# Seeds in batches

It does not matter whether seeds are propagated at once or in two batches, nor in which order. Both
ways spread to the least closed sets of all seeds: what two runs one after the other reach is closed
for the seeds of both, and what is closed for all seeds stays so between the runs. As a run lists
exactly the difference between its snapshots, the rows differ in their order alone.
-/

namespace LearningMap

namespace Snapshot

variable {s : Snapshot} {t : Spread}

theorem Closed.of_subset {seeds more : List Id} (h : s.Closed more t) (sub : seeds ⊆ more) :
    s.Closed seeds t :=
  { h with seed := fun n hn => h.seed n (sub hn) }

theorem Closed.after_run (wf : s.WellFormed) {seeds more : List Id}
    (h : s.Closed (seeds ++ more) t) : (s.run seeds).snapshot.Closed more t where
  __ := (h.of_subset (List.subset_append_left seeds more)).run wf
  seed n hn := h.seed n (List.mem_append_right seeds hn)

/-- What two runs one after the other reach together is closed for the seeds of both. -/
theorem Closed.append {run : Run} {seeds more : List Id} {u : Spread}
    (step : run.Extends s) (h₁ : s.Closed seeds (run.spread seeds))
    (h₂ : run.snapshot.Closed more u) :
    s.Closed (seeds ++ more) ⟨(run.spread seeds).nodes ∪ u.nodes, u.arrows, u.rules⟩ := by
  have arrows_grow : (run.spread seeds).arrows ⊆ u.arrows := h₂.resolved
  refine ⟨?seed, ?unlock, ?resolved, ?leave, ?recorded, ?earn⟩
  case seed =>
    intro n hn
    exact (List.mem_append.mp hn).imp (h₁.seed n) (h₂.seed n)
  case unlock =>
    intro i r hi fresh hr
    by_cases now : i ∈ run.snapshot.progress.rules
    · exact .inl (h₁.unlock now fresh hr)
    · exact .inr (h₂.unlock hi now (rules_eq_of_graph step.graph_eq ▸ hr))
  case resolved => exact fun i hi => arrows_grow (h₁.resolved i hi)
  case leave =>
    rintro n (hn | hn) a ha
    · exact arrows_grow (h₁.leave n hn a ha)
    · exact h₂.leave n hn a (outgoing_eq_of_graph step.graph_eq n ▸ ha)
  case recorded => exact fun i hi => h₂.recorded i (h₁.recorded i hi)
  case earn =>
    intro i r hr earned
    exact h₂.earn (rules_eq_of_graph step.graph_eq ▸ hr)
      (earned_eq_of_graph step.graph_eq ▸ earned)

theorem run_append (wf : s.WellFormed) (seeds more : List Id) :
    ((s.run seeds).snapshot.run more).snapshot = (s.run (seeds ++ more)).snapshot := by
  by_cases some_seed : seeds = []
  · simp [some_seed]
  by_cases some_more : more = []
  · simp [some_more]
  have first := run_extends wf seeds
  have wf' := wf.of_graph first.graph_eq
  have second := run_extends wf' more
  have least_all := run_isLeast wf (List.append_ne_nil_of_left_ne_nil some_seed more)
  have least_first := run_isLeast wf some_seed
  have least_second := run_isLeast wf' some_more
  have up := least_all.2 (least_first.1.append first least_second.1)
  have down := least_second.2 (least_all.1.after_run wf)
  apply (first.append second).snapshot_ext (run_extends wf _)
  · exact IdSet.ext_iff.mpr fun i => ⟨@down.2.1 i, @up.2.1 i⟩
  · exact IdSet.ext_iff.mpr fun i => ⟨@down.2.2 i, @up.2.2 i⟩

/-- Seeds in another order, or with repetitions, leave the same snapshot. -/
theorem run_congr (wf : s.WellFormed) {seeds others : List Id}
    (same : ∀ n, n ∈ seeds ↔ n ∈ others) : (s.run seeds).snapshot = (s.run others).snapshot := by
  by_cases some_seed : seeds = []
  · subst some_seed
    have none_other : others = [] := List.eq_nil_iff_forall_not_mem.mpr fun n hn => by
      simpa using (same n).mpr hn
    rw [none_other]
  · have some_other : others ≠ [] := by
      rintro rfl
      exact some_seed (List.eq_nil_iff_forall_not_mem.mpr fun n hn => by simpa using (same n).mp hn)
    have least := run_isLeast wf some_seed
    have least' := run_isLeast wf some_other
    have up := least'.2 (least.1.of_subset fun n hn => (same n).mpr hn)
    have down := least.2 (least'.1.of_subset fun n hn => (same n).mp hn)
    apply (run_extends wf _).snapshot_ext (run_extends wf _)
    · exact IdSet.ext_iff.mpr fun i => ⟨@down.2.1 i, @up.2.1 i⟩
    · exact IdSet.ext_iff.mpr fun i => ⟨@down.2.2 i, @up.2.2 i⟩

end Snapshot

namespace Plan

/-- Two sequences of plans have the same rows, in some order. -/
structure SameRows (ps qs : List Plan) : Prop where
  resolutions : (ps.flatMap (·.resolutions)).Perm (qs.flatMap (·.resolutions))
  completions : (ps.flatMap (·.completions)).Perm (qs.flatMap (·.completions))

theorem SameRows.trans {ps qs rs : List Plan} (h : SameRows ps qs) (h' : SameRows qs rs) :
    SameRows ps rs :=
  ⟨h.resolutions.trans h'.resolutions, h.completions.trans h'.completions⟩

variable (scope : Scope) (now : Timestamp)

theorem sameRows_ofRun {s : Snapshot} (wf : s.WellFormed) {first second : Run}
    (h₁ : first.Extends s) (h₂ : second.Extends s) (same : first.snapshot = second.snapshot) :
    SameRows [.ofRun first scope now] [.ofRun second scope now] := by
  have perm := h₁.perm wf h₂ same
  constructor
  · simpa [ofRun] using perm.1.map _
  · simpa [ofRun, same] using perm.2.map _

theorem sameRows_ofRun_append {first second : Run}
    (h : second.Extends first.snapshot) :
    SameRows [.ofRun first scope now, .ofRun second scope now]
      [.ofRun (first.append second) scope now] := by
  have same_map : second.snapshot.map = first.snapshot.map := Snapshot.map_eq_of_graph h.graph_eq
  constructor
  · simp [ofRun, Run.append]
  · simp [ofRun, Run.append, same_map]

end Plan

namespace Snapshot

variable {s : Snapshot}

/-- Two propagations one after the other store what one propagation from all seeds stores. -/
theorem sameRows_run_append (wf : s.WellFormed) (seeds more : List Id) (scope : Scope)
    (now : Timestamp) :
    Plan.SameRows
      [.ofRun (s.run seeds) scope now, .ofRun ((s.run seeds).snapshot.run more) scope now]
      [.ofRun (s.run (seeds ++ more)) scope now] := by
  have first := run_extends wf seeds
  have second := run_extends (wf.of_graph first.graph_eq) more
  apply (Plan.sameRows_ofRun_append scope now second).trans
  exact Plan.sameRows_ofRun scope now wf (first.append second) (run_extends wf _)
    (run_append wf seeds more)

theorem sameRows_run_congr (wf : s.WellFormed) {seeds others : List Id}
    (same : ∀ n, n ∈ seeds ↔ n ∈ others) (scope : Scope) (now : Timestamp) :
    Plan.SameRows [.ofRun (s.run seeds) scope now] [.ofRun (s.run others) scope now] :=
  Plan.sameRows_ofRun scope now wf (run_extends wf _) (run_extends wf _) (run_congr wf same)

theorem activated_run_congr (wf : s.WellFormed) {seeds others : List Id}
    (same : ∀ n, n ∈ seeds ↔ n ∈ others) (scope : Scope) (now : Timestamp) :
    (Plan.ofRun (s.run seeds) scope now).activated =
      (Plan.ofRun (s.run others) scope now).activated := by
  have one := run_congr wf same
  have recorded := ((run_extends wf seeds).perm wf (run_extends wf others) one).2
  rw [IdSet.ext_iff]
  intro n
  simp only [Plan.ofRun, mem_activatable, one, List.mem_eraseDups, List.mem_map,
    recorded.mem_iff]

/-- Seeds may be split into batches, in either order, and listed in any order. -/
theorem propagate_in_batches (h : s.Arises) (seeds more : List Id) (scope : Scope)
    (now : Timestamp) :
    let once := s.propagate (seeds ++ more) scope now
    let first := s.propagate seeds scope now
    let second := first.1.propagate more scope now
    let first' := s.propagate more scope now
    let second' := first'.1.propagate seeds scope now
    (second.1 = once.1 ∧ Plan.SameRows [first.2, second.2] [once.2]) ∧
    (second'.1 = once.1 ∧ Plan.SameRows [first'.2, second'.2] [once.2]) ∧
    ∀ others, (∀ n, n ∈ others ↔ n ∈ seeds) →
      (s.propagate others scope now).1 = first.1 ∧
      Plan.SameRows [(s.propagate others scope now).2] [first.2] ∧
      (s.propagate others scope now).2.activated = first.2.activated := by
  have wf := h.wellFormed
  have swapped : ∀ n, n ∈ more ++ seeds ↔ n ∈ seeds ++ more := fun n => by
    simp only [List.mem_append, or_comm]
  refine ⟨⟨run_append wf seeds more, sameRows_run_append wf seeds more scope now⟩, ⟨?_, ?_⟩, ?_⟩
  · exact (run_append wf more seeds).trans (run_congr wf swapped)
  · exact (sameRows_run_append wf more seeds scope now).trans
      (sameRows_run_congr wf swapped scope now)
  · intro others same
    exact ⟨run_congr wf same, sameRows_run_congr wf same scope now,
      activated_run_congr wf same scope now⟩

theorem propagate_in_batches_on_cycle :
    twoNodeCycle.Arises ∧
      ((twoNodeCycle.propagate [2] (.solo 7) default).1.propagate [1, 2] (.solo 7) default).1 =
        (twoNodeCycle.propagate [2, 1, 2] (.solo 7) default).1 ∧
      (∀ n : Id, n ∈ [2, 2] ↔ n ∈ [2]) ∧
      (twoNodeCycle.propagate [2, 2] (.solo 7) default).1 =
        (twoNodeCycle.propagate [2] (.solo 7) default).1 := by
  have repeated : ∀ n : Id, n ∈ [2, 2] ↔ n ∈ [2] := by simp
  have batches := propagate_in_batches twoNodeCycle_arises [2] [1, 2] (.solo 7) default
  exact ⟨twoNodeCycle_arises, batches.1.1, repeated, (batches.2.2 [2, 2] repeated).1⟩

end Snapshot

end LearningMap
