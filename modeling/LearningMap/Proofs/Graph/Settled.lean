import LearningMap.Proofs.Graph.Closure

/-!
# Settled snapshots

A snapshot is settled when exactly the rules that its resolved arrows earn are recorded. Propagation
from some seeds settles a snapshot in which nothing is recorded without being earned, and it does not
matter what else was resolved before. An arrow resolved on its own keeps a snapshot settled as long
as it earns nothing.
-/

namespace LearningMap

namespace Snapshot

variable {s t : Snapshot}

def Justified (s : Snapshot) : Prop :=
  ∀ i r, s.rules[i]? = some r → i ∈ s.progress.rules → s.Earned s.progress.arrows.toSet i

/-- Exactly the rules that the resolved arrows earn are recorded. -/
structure Settled (s : Snapshot) : Prop where
  justified : s.Justified
  saturated : s.Saturated

theorem Settled.recorded_iff (h : s.Settled) {i : Id} {r : Rule} (hr : s.rules[i]? = some r) :
    i ∈ s.progress.rules ↔ s.Earned s.progress.arrows.toSet i :=
  ⟨h.justified i r hr, h.saturated hr⟩

/-- Some arrows have been resolved on their own, with no rule recorded. -/
structure Adds (s : Snapshot) (given : List Id) (t : Snapshot) : Prop where
  graph_eq : t.graph = s.graph
  rules_eq : t.progress.rules = s.progress.rules
  mem_arrows : ∀ i, i ∈ t.progress.arrows ↔ i ∈ s.progress.arrows ∨ i ∈ given

theorem Adds.refl (s : Snapshot) : s.Adds [] s :=
  ⟨rfl, rfl, by simp⟩

theorem Adds.justified {given : List Id} (adds : s.Adds given t) (h : s.Justified) :
    t.Justified := by
  intro i r hr recorded
  rw [earned_eq_of_graph adds.graph_eq]
  have earned := h i r (rules_eq_of_graph adds.graph_eq ▸ hr) (adds.rules_eq ▸ recorded)
  exact earned.mono fun j hj => (adds.mem_arrows j).mpr (.inl hj)

theorem Justified.visit (wf : s.WellFormed) (h : s.Justified) (scan : Scan) (n : Id) :
    (s.visit scan n).snapshot.Justified := by
  have step := visit_extends wf scan n
  intro i r hr recorded
  have found : s.rules[i]? = some r := rules_eq_of_graph step.graph_eq ▸ hr
  rw [earned_eq_of_graph step.graph_eq]
  rcases step.mem_rules.mp recorded with old | ⟨q, hq, rfl⟩
  · exact (h i r found old).mono fun i hi => step.mem_arrows.mpr (.inl hi)
  · exact (mem_recorded_visit wf hq).2.2

theorem Justified.run (wf : s.WellFormed) (h : s.Justified) (seeds : List Id) :
    (s.run seeds).snapshot.Justified :=
  run_of_visits (motive := fun u _ => u.Justified) id
    (fun scan graph justified => justified.visit (wf.of_graph graph) scan _) h

theorem Justified.settled_run (wf : s.WellFormed) (h : s.Justified) {seeds : List Id}
    (some_seed : seeds ≠ []) : (s.run seeds).snapshot.Settled where
  justified := h.run wf seeds
  saturated := saturated_run wf some_seed

/-- One more resolved arrow keeps a snapshot settled if the rule of that arrow is not earned yet. -/
theorem Settled.resolve_one (h : s.Settled) {j : Id} (adds : s.Adds [j] t)
    (unearned : ∀ i, j ∈ s.ruleArrows i → ¬ t.Earned t.progress.arrows.toSet i) : t.Settled where
  justified := adds.justified h.justified
  saturated := by
    intro i r hr earned
    have other : j ∉ s.ruleArrows i := fun hj => unearned i hj earned
    rw [adds.rules_eq]
    apply h.saturated (rules_eq_of_graph adds.graph_eq ▸ hr)
    rw [earned_eq_of_graph adds.graph_eq] at earned
    refine ⟨earned.1, fun k hk => ?_⟩
    rcases (adds.mem_arrows k).mp (earned.2 k hk) with old | new
    · exact old
    · exact absurd hk (List.mem_singleton.mp new ▸ other)

end Snapshot

end LearningMap
