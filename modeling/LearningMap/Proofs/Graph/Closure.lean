import LearningMap.Proofs.Graph.Run
import Mathlib.Order.Bounds.Defs

/-!
# Propagation as a least closure

Completion spreads to nodes, arrows and rules. Three sets of these are closed when they hold the
seeds and the progress so far, the arrows that leave their nodes, the rules that their arrows earn
and the nodes of their new rules. Propagation from some seeds ends with the least closed sets.

That nothing is missing rests on an invariant of the loop: it has left the nodes that it has visited,
and once all rules have been checked, every earned rule is recorded (`Worklist.Covers`). A visit that
checks only the rules it touched keeps this, because a rule is earned anew only through an arrow of
its own. That nothing is too much holds visit by visit: whatever is closed for the state before a
visit is closed for the state after it.
-/

namespace LearningMap

structure Spread where
  nodes : Set Id
  arrows : Set Id
  rules : Set Id

instance : LE Spread :=
  ⟨fun t u => t.nodes ⊆ u.nodes ∧ t.arrows ⊆ u.arrows ∧ t.rules ⊆ u.rules⟩

namespace Snapshot

/-- A spread that completion from some seeds cannot leave. Rules that were recorded before unlock
nothing: their nodes have been dealt with. -/
structure Closed (s : Snapshot) (seeds : List Id) (t : Spread) : Prop where
  seed : ∀ n ∈ seeds, n ∈ t.nodes
  unlock : ∀ {i : Id} {r : Rule},
    i ∈ t.rules → i ∉ s.progress.rules → s.rules[i]? = some r → r.node ∈ t.nodes
  resolved : ∀ i ∈ s.progress.arrows, i ∈ t.arrows
  leave : ∀ n ∈ t.nodes, ∀ a ∈ s.outgoing n, a.id ∈ t.arrows
  recorded : ∀ i ∈ s.progress.rules, i ∈ t.rules
  earn : ∀ {i : Id} {r : Rule}, s.rules[i]? = some r → s.Earned t.arrows i → i ∈ t.rules

/-- Every rule of the map that the resolved arrows earn is recorded. -/
def Saturated (s : Snapshot) : Prop :=
  ∀ {i : Id} {r : Rule},
    s.rules[i]? = some r → s.Earned s.progress.arrows.toSet i → i ∈ s.progress.rules

end Snapshot

def Run.spread (run : Run) (seeds : List Id) : Spread where
  nodes := {n | n ∈ seeds ∨ ∃ r ∈ run.recorded, r.node = n}
  arrows := run.snapshot.progress.arrows.toSet
  rules := run.snapshot.progress.rules.toSet

namespace Snapshot

variable {s : Snapshot} {t : Spread}

theorem Closed.visit (wf : s.WellFormed) {n : Id} {queue : List Id} (h : s.Closed (n :: queue) t)
    (scan : Scan) :
    (s.visit scan n).snapshot.Closed (queue ++ (s.visit scan n).recorded.map (·.node)) t := by
  have step := visit_extends wf scan n
  have arrows_below : ∀ i ∈ (s.visit scan n).snapshot.progress.arrows, i ∈ t.arrows := by
    intro i hi
    rcases step.mem_arrows.mp hi with old | ⟨a, ha, rfl⟩
    · exact h.resolved i old
    · exact h.leave n (h.seed n List.mem_cons_self) a (mem_fresh.mp ha).1
  have recorded_below : ∀ r ∈ (s.visit scan n).recorded, r.id ∈ t.rules := by
    intro r hr
    obtain ⟨found, -, earned⟩ := mem_recorded_visit wf hr
    exact h.earn found (earned.mono arrows_below)
  refine ⟨?seed, ?unlock, arrows_below, ?leave, ?recorded, ?earn⟩
  case seed =>
    intro m hm
    rcases List.mem_append.mp hm with hm | hm
    · exact h.seed m (List.mem_cons_of_mem n hm)
    · obtain ⟨r, hr, rfl⟩ := List.mem_map.mp hm
      exact h.unlock (recorded_below r hr) (step.unrecorded r hr) (step.rule r hr)
  case unlock =>
    intro i r hi fresh hr
    exact h.unlock hi (fun old => fresh (step.mem_rules.mpr (.inl old))) hr
  case leave => exact h.leave
  case recorded =>
    intro i hi
    rcases step.mem_rules.mp hi with old | ⟨r, hr, rfl⟩
    · exact h.recorded i old
    · exact recorded_below r hr
  case earn => exact h.earn

theorem Closed.run (wf : s.WellFormed) {seeds : List Id} (h : s.Closed seeds t) :
    (s.run seeds).snapshot.Closed [] t := by
  apply run_of_visits (motive := fun u queue => u.Closed queue t) ?pass ?visit h
  case pass =>
    intro u n queue closed
    exact { closed with seed := fun m hm => closed.seed m (List.mem_cons_of_mem n hm) }
  case visit => exact fun scan graph closed => closed.visit (wf.of_graph graph) scan

theorem saturated_visit (wf : s.WellFormed) (scan : Scan) (n : Id)
    (h : scan = .touched → s.Saturated) : (s.visit scan n).snapshot.Saturated := by
  intro i r hr earned
  have step := visit_extends wf scan n
  have hid : r.id = i := wf.id_of_rule hr
  by_contra unrecorded
  have fresh : i ∉ s.progress.rules := fun old => unrecorded (step.mem_rules.mpr (.inl old))
  refine unrecorded (step.mem_rules.mpr (.inr ⟨r, ?_, hid⟩))
  cases scan with
  | everything => exact mem_allNewlySatisfied.mpr ⟨⟨i, hr⟩, hid ▸ fresh, hid ▸ earned⟩
  | touched =>
    refine mem_newlySatisfied.mpr ⟨⟨i, ?_, hr⟩, hid ▸ fresh, hid ▸ earned⟩
    -- The rule was not earned before, so some arrow of its own is resolved by this visit.
    have open_before : ¬ s.Earned s.progress.arrows.toSet i := fun old => fresh (h rfl hr old)
    obtain ⟨j, hj, hopen⟩ : ∃ j ∈ s.ruleArrows i, j ∉ s.progress.arrows := by
      by_contra none_open
      push Not at none_open
      exact open_before ⟨earned.1, none_open⟩
    rcases step.mem_arrows.mp (earned.2 j hj) with old | ⟨a, ha, rfl⟩
    · exact absurd old hopen
    · rw [IdSet.mem_ofList]
      exact List.mem_map.mpr ⟨a, ha, wf.rule_of_mem_ruleArrows (mem_fresh.mp ha).1 hj⟩

end Snapshot

namespace Worklist

/-- A loop has left all nodes that it has visited, and from its first visit on every earned rule is
recorded. -/
structure Covers (w : Worklist) (s : Snapshot) : Prop where
  added : w.run.Extends s
  left : ∀ n ∈ w.run.visited, ∀ a ∈ s.outgoing n, a.id ∈ w.run.snapshot.progress.arrows
  scan : w.run.visited ≠ [] → w.scan = .touched
  saturated : w.scan = .touched → w.run.snapshot.Saturated

theorem covers_start (s : Snapshot) (seeds : List Id) : (start s seeds).Covers s where
  added := .start s
  left _ visited := absurd visited List.not_mem_nil
  scan visited := absurd rfl visited
  saturated := nofun

theorem Covers.take? {s : Snapshot} {w v : Worklist} (wf : s.WellFormed) (h : w.Covers s)
    (taken : w.take? .touched = some v) : v.Covers s := by
  have added := Extends.take? wf h.added taken
  have wf' := wf.of_graph h.added.graph_eq
  obtain ⟨node, queue, -, ⟨-, rfl⟩ | ⟨-, rfl⟩⟩ := take?_cases taken
  · exact { h with }
  refine ⟨added, ?left, fun _ => rfl, fun _ => ?saturated⟩
  case left =>
    intro n visited a ha
    rcases List.mem_append.mp visited with before | now
    · have step := Snapshot.visit_extends wf' w.scan node
      exact step.mem_arrows.mpr (.inl (h.left n before a ha))
    · obtain rfl := List.mem_singleton.mp now
      apply Snapshot.resolved_visit
      rwa [Snapshot.outgoing_eq_of_graph h.added.graph_eq]
  case saturated => exact Snapshot.saturated_visit wf' w.scan node h.saturated

end Worklist

namespace Snapshot

variable {s : Snapshot} {t : Spread}

theorem exists_covers_run (wf : s.WellFormed) (seeds : List Id) :
    ∃ last : Worklist, last.Covers s ∧ last.queue = [] ∧ s.run seeds = last.run :=
  run_of_kept (Worklist.Covers.take? wf) (Worklist.covers_start s seeds)

theorem left_of_visited (wf : s.WellFormed) {seeds : List Id} {n : Id}
    (visited : n ∈ (s.run seeds).visited) {a : Arrow} (ha : a ∈ s.outgoing n) :
    a.id ∈ (s.run seeds).snapshot.progress.arrows := by
  obtain ⟨last, covers, -, ran⟩ := exists_covers_run wf seeds
  rw [ran] at visited ⊢
  exact covers.left n visited a ha

theorem saturated_run (wf : s.WellFormed) {seeds : List Id} (some_seed : seeds ≠ []) :
    (s.run seeds).snapshot.Saturated := by
  obtain ⟨n, seed⟩ := List.exists_mem_of_ne_nil seeds some_seed
  have visited : n ∈ (s.run seeds).visited := mem_visited_run.mpr (.inl seed)
  obtain ⟨last, covers, -, ran⟩ := exists_covers_run wf seeds
  rw [ran] at visited ⊢
  intro i r
  exact covers.saturated (covers.scan (List.ne_nil_of_mem visited))

theorem run_isLeast (wf : s.WellFormed) {seeds : List Id} (some_seed : seeds ≠ []) :
    IsLeast {t | s.Closed seeds t} ((s.run seeds).spread seeds) := by
  have run := run_extends wf seeds
  constructor
  · refine ⟨fun n seed => .inl seed, ?unlock, fun i hi => run.mem_arrows.mpr (.inl hi), ?leave,
      fun i hi => run.mem_rules.mpr (.inl hi), ?earn⟩
    case unlock =>
      intro i r hi fresh hr
      rcases run.mem_rules.mp hi with old | ⟨q, hq, rfl⟩
      · exact absurd old fresh
      · have same : q = r := Option.some.inj ((run.rule q hq).symm.trans hr)
        exact .inr ⟨q, hq, congrArg (·.node) same⟩
    case leave =>
      intro n hn a ha
      exact left_of_visited wf (mem_visited_run.mpr hn) ha
    case earn =>
      intro i r hr earned
      apply saturated_run wf some_seed (rules_eq_of_graph run.graph_eq ▸ hr)
      rwa [earned_eq_of_graph run.graph_eq]
  · intro t closed
    have below := closed.run wf
    refine ⟨?_, below.resolved, below.recorded⟩
    rintro n (hn | ⟨r, hr, rfl⟩)
    · exact closed.seed n hn
    · have recorded : r.id ∈ t.rules := below.recorded _ (run.mem_rules.mpr (.inr ⟨r, hr, rfl⟩))
      exact closed.unlock recorded (run.unrecorded r hr) (run.rule r hr)

/-- A snapshot that has part of what a run adds to another one. -/
structure Between (t s : Snapshot) (run : Run) : Prop where
  graph_eq : t.graph = s.graph
  arrows_above : ∀ i ∈ s.progress.arrows, i ∈ t.progress.arrows
  arrows_below : ∀ i ∈ t.progress.arrows, i ∈ run.snapshot.progress.arrows
  rules_above : ∀ i ∈ s.progress.rules, i ∈ t.progress.rules
  rules_below : ∀ i ∈ t.progress.rules, i ∈ run.snapshot.progress.rules

namespace Between

variable {t : Snapshot} {seeds : List Id} (h : t.Between s (s.run seeds)) (wf : s.WellFormed)
  (some_seed : seeds ≠ [])
include h wf some_seed

/-- What a run spreads to is closed for every snapshot between its ends. More rules may be recorded
there than before the run, but the run has reached their nodes. -/
theorem closed : t.Closed seeds ((s.run seeds).spread seeds) := by
  have closed := (run_isLeast wf some_seed).1
  refine ⟨closed.seed, ?unlock, h.arrows_below, ?leave, h.rules_below, ?earn⟩
  case unlock =>
    intro i r hi fresh hr
    exact closed.unlock hi (fun old => fresh (h.rules_above i old)) (rules_eq_of_graph h.graph_eq ▸ hr)
  case leave =>
    intro n hn a ha
    exact closed.leave n hn a (outgoing_eq_of_graph h.graph_eq n ▸ ha)
  case earn =>
    intro i r hr earned
    exact closed.earn (rules_eq_of_graph h.graph_eq ▸ hr) (earned_eq_of_graph h.graph_eq ▸ earned)

theorem resolved_subset : (t.run seeds).resolved ⊆ (s.run seeds).resolved := by
  intro a ha
  have wf' := wf.of_graph h.graph_eq
  obtain ⟨⟨n, hn⟩, unresolved, done⟩ := ((run_extends wf' seeds).mem_resolved wf').mp ha
  have below := (run_isLeast wf' some_seed).2 (h.closed wf some_seed)
  refine ((run_extends wf seeds).mem_resolved wf).mpr ⟨⟨n, ?_⟩, ?_, below.2.1 done⟩
  · exact outgoing_eq_of_graph h.graph_eq n ▸ hn
  · exact fun old => unresolved (h.arrows_above a.id old)

theorem recorded_subset : (t.run seeds).recorded ⊆ (s.run seeds).recorded := by
  intro r hr
  have wf' := wf.of_graph h.graph_eq
  obtain ⟨found, unrecorded, done⟩ := (run_extends wf' seeds).mem_recorded.mp hr
  have below := (run_isLeast wf' some_seed).2 (h.closed wf some_seed)
  refine (run_extends wf seeds).mem_recorded.mpr ⟨?_, ?_, below.2.2 done⟩
  · exact rules_eq_of_graph h.graph_eq ▸ found
  · exact fun old => unrecorded (h.rules_above r.id old)

end Between

/-- The snapshots that propagation meets: built from arrows without a common id, or left by an
earlier propagation. -/
inductive Arises : Snapshot → Prop
  | build (map : Id) {arrows : List Arrow} (rules : List Rule) (resolved : List Id)
      (completed : List (Id × Id)) :
      (arrows.map (·.id)).Nodup → Arises (build map arrows rules resolved completed)
  | propagate {s : Snapshot} (seeds : List Id) (scope : Scope) (now : Timestamp) :
      Arises s → Arises (s.propagate seeds scope now).1

theorem Arises.wellFormed (h : s.Arises) : s.WellFormed := by
  induction h with
  | build map rules resolved completed distinct =>
    exact build_wellFormed map rules resolved completed distinct
  | propagate seeds scope now _ wf =>
    exact wf.of_graph (run_extends wf seeds).graph_eq

theorem mem_nodes_run (wf : s.WellFormed) (seeds : List Id) {n : Id} :
    n ∈ (s.run seeds).snapshot.progress.nodes ↔
      n ∈ s.progress.nodes ∨ ∃ i ∈ (s.run seeds).snapshot.progress.rules,
        i ∉ s.progress.rules ∧ ∃ r, s.rules[i]? = some r ∧ r.node = n := by
  have run := run_extends wf seeds
  rw [run.mem_nodes]
  refine or_congr_right ⟨?_, ?_⟩
  · rintro ⟨r, hr, hn⟩
    exact ⟨r.id, run.mem_rules.mpr (.inr ⟨r, hr, rfl⟩), run.unrecorded r hr, r, run.rule r hr, hn⟩
  · rintro ⟨i, done, fresh, r, hr, hn⟩
    have hid : r.id = i := wf.id_of_rule hr
    exact ⟨r, run.mem_recorded.mpr ⟨hid ▸ hr, hid ▸ fresh, hid ▸ done⟩, hn⟩

/-- Propagation from some seeds ends with the least closed sets of arrows and rules, and with the
nodes of the new rules completed. Without seeds it does nothing. -/
theorem propagate_least_closed (h : s.Arises) (seeds : List Id) (scope : Scope) (now : Timestamp) :
    (seeds ≠ [] →
      ∃ t : Spread, IsLeast {t | s.Closed seeds t} t ∧
        (s.propagate seeds scope now).1.progress.arrows.toSet = t.arrows ∧
        (s.propagate seeds scope now).1.progress.rules.toSet = t.rules ∧
        (s.propagate seeds scope now).1.progress.nodes.toSet =
          s.progress.nodes.toSet ∪
            {n | ∃ i ∈ t.rules, i ∉ s.progress.rules ∧ ∃ r, s.rules[i]? = some r ∧ r.node = n}) ∧
    s.propagate [] scope now = (s, ⟨[], [], ∅⟩) := by
  constructor
  · intro some_seed
    refine ⟨_, run_isLeast h.wellFormed some_seed, rfl, rfl, ?_⟩
    ext n
    exact mem_nodes_run h.wellFormed seeds
  · rw [propagate_eq, run_nil]
    simp only [Plan.ofRun, List.map_nil, Prod.mk.injEq, Plan.mk.injEq, true_and]
    rw [IdSet.ext_iff]
    simp [mem_activatable]

/-- Two nodes that lead to each other, the second one to itself as well. -/
def twoNodeCycle : Snapshot :=
  build 1 [⟨10, 1, 1, 100, 2⟩, ⟨11, 1, 2, 101, 1⟩, ⟨12, 1, 2, 102, 2⟩]
    [⟨100, 1, 2⟩, ⟨101, 1, 1⟩, ⟨102, 1, 2⟩] [] []

theorem twoNodeCycle_arises : twoNodeCycle.Arises := .build 1 _ _ _ (by decide)

theorem propagate_least_closed_on_cycle :
    twoNodeCycle.Arises ∧ ([2] : List Id) ≠ [] ∧
      ∃ t : Spread, IsLeast {t | twoNodeCycle.Closed [2] t} t ∧
        (twoNodeCycle.propagate [2] (.solo 7) default).1.progress.arrows.toSet = t.arrows ∧
        (twoNodeCycle.propagate [2] (.solo 7) default).1.progress.rules.toSet = t.rules := by
  refine ⟨twoNodeCycle_arises, by decide, ?_⟩
  obtain ⟨t, least, arrows, rules, -⟩ :=
    (propagate_least_closed twoNodeCycle_arises [2] (.solo 7) default).1 (by decide)
  exact ⟨t, least, arrows, rules⟩

end Snapshot

end LearningMap
