import LearningMap.Proofs.Graph.Closure
import Mathlib.Data.Set.Basic

/-!
# A plan as the difference of two snapshots

A propagation changes a snapshot in place and lists rows to store beside it. `Plan.IsDelta` says that
the rows are exactly what the snapshot gains, and that it is otherwise left alone. `Run.Extends` has
that nothing is missed or listed twice; what remains is where the new arrows start. An arrow is
resolved by a visit to its start node, and a node waits in the queue as a seed or because a rule of
its own was recorded.
-/

namespace LearningMap

namespace Plan

section Rows

variable (p : Plan)

def arrows : Set Id := {i | ∃ row ∈ p.resolutions, row.arrow = i}

def rules : Set Id := {i | ∃ row ∈ p.completions, row.rule = i}

def nodes : Set Id := {n | ∃ row ∈ p.completions, row.node = n}

/-- A plan lists exactly what one snapshot has beyond another. What was there before is not listed,
nothing is listed twice, every row is about an arrow or a rule of the graph, and a new arrow starts
where something new happened. Beside the progress the snapshots are the same. -/
structure IsDelta (before after : Snapshot) (seeds : List Id) : Prop where
  arrows : after.progress.arrows.toSet = before.progress.arrows.toSet ∪ p.arrows
  rules : after.progress.rules.toSet = before.progress.rules.toSet ∪ p.rules
  nodes : after.progress.nodes.toSet = before.progress.nodes.toSet ∪ p.nodes
  new_arrows : ∀ i ∈ p.arrows, i ∉ before.progress.arrows.toSet
  new_rules : ∀ i ∈ p.rules, i ∉ before.progress.rules.toSet
  nodup_arrows : (p.resolutions.map (·.arrow)).Nodup
  nodup_rules : (p.completions.map (·.rule)).Nodup
  completion : ∀ row ∈ p.completions, ∃ r, before.rules[row.rule]? = some r ∧ r.node = row.node
  resolution : ∀ row ∈ p.resolutions, ∃ a ∈ before.arrows, a.id = row.arrow ∧
    (a.start ∈ seeds ∨ a.start ∈ p.nodes)
  rest : { after with progress := before.progress } = before

/-- All rows of a plan are of one map, one scope and one time. -/
structure AttributedTo (map : Id) (scope : Scope) (now : Timestamp) : Prop where
  resolution : ∀ row ∈ p.resolutions,
    row.map = map ∧ row.member = scope.member ∧ row.seat = scope.seat ∧ row.time = now
  completion : ∀ row ∈ p.completions,
    row.map = map ∧ row.member = scope.member ∧ row.seat = scope.seat ∧ row.time = now

end Rows

variable {run : Run} {s : Snapshot} (scope : Scope) (now : Timestamp)

@[simp] theorem arrows_ofRun :
    (ofRun run scope now).arrows = {i | ∃ a ∈ run.resolved, a.id = i} := by
  simp [arrows, ofRun]

@[simp] theorem rules_ofRun :
    (ofRun run scope now).rules = {i | ∃ r ∈ run.recorded, r.id = i} := by
  simp [rules, ofRun]

@[simp] theorem nodes_ofRun :
    (ofRun run scope now).nodes = {n | ∃ r ∈ run.recorded, r.node = n} := by
  simp [nodes, ofRun]

theorem isDelta_ofRun {seeds : List Id} (gain : run.Extends s)
    (starts : ∀ a ∈ run.resolved, a.start ∈ seeds ∨ ∃ r ∈ run.recorded, r.node = a.start) :
    (ofRun run scope now).IsDelta s run.snapshot seeds := by
  refine ⟨?arrows, ?rules, ?nodes, ?newArrows, ?newRules, ?onceArrows, ?onceRules, ?completion,
    ?resolution, ?rest⟩
  case arrows =>
    ext i
    simpa using gain.mem_arrows
  case rules =>
    ext i
    simpa using gain.mem_rules
  case nodes =>
    ext n
    simpa using gain.mem_nodes
  case newArrows =>
    rw [arrows_ofRun]
    rintro i ⟨a, ha, rfl⟩
    exact gain.unresolved a ha
  case newRules =>
    rw [rules_ofRun]
    rintro i ⟨r, hr, rfl⟩
    exact gain.unrecorded r hr
  case onceArrows => simpa [ofRun, Function.comp_def] using gain.nodup_resolved
  case onceRules => simpa [ofRun, Function.comp_def] using gain.nodup_recorded
  case completion =>
    intro row hrow
    obtain ⟨r, hr, rfl⟩ := List.mem_map.mp hrow
    exact ⟨r, gain.rule r hr, rfl⟩
  case resolution =>
    intro row hrow
    obtain ⟨a, ha, rfl⟩ := List.mem_map.mp hrow
    obtain ⟨n, -, leaves⟩ := gain.outgoing a ha
    refine ⟨a, Snapshot.mem_arrows.mpr ⟨n, leaves⟩, rfl, ?_⟩
    simpa using starts a ha
  case rest =>
    rw [gain.snapshot_eq]
    rfl

theorem attributedTo_ofRun (wf : s.WellFormed) (gain : run.Extends s) :
    (ofRun run scope now).AttributedTo s.map scope now where
  resolution row hrow := by
    obtain ⟨a, ha, rfl⟩ := List.mem_map.mp hrow
    obtain ⟨n, -, leaves⟩ := gain.outgoing a ha
    exact ⟨wf.map_of_outgoing leaves, rfl, rfl, rfl⟩
  completion row hrow := by
    obtain ⟨r, hr, rfl⟩ := List.mem_map.mp hrow
    exact ⟨Snapshot.map_eq_of_graph gain.graph_eq, rfl, rfl, rfl⟩

end Plan

namespace Snapshot

/-- The plan of a propagation is what the snapshot gains by it, for the scope and at the time
given. -/
theorem propagate_plan_isDelta {s : Snapshot} (h : s.Arises) (seeds : List Id) (scope : Scope)
    (now : Timestamp) :
    (s.propagate seeds scope now).2.IsDelta s (s.propagate seeds scope now).1 seeds ∧
      (s.propagate seeds scope now).2.AttributedTo s.map scope now := by
  have wf := h.wellFormed
  have gained := run_extends wf seeds
  rw [propagate_eq]
  constructor
  · apply Plan.isDelta_ofRun scope now gained
    intro a ha
    obtain ⟨n, visited, leaves⟩ := gained.outgoing a ha
    rw [wf.start_of_outgoing leaves]
    exact mem_visited_run.mp visited
  · exact Plan.attributedTo_ofRun scope now wf gained

/-- On a cycle with a self-loop, for a seed given twice. -/
theorem propagate_plan_isDelta_on_cycle :
    twoNodeCycle.Arises ∧
      (twoNodeCycle.propagate [2, 2] (.seated 7 70 700) default).2.IsDelta twoNodeCycle
        (twoNodeCycle.propagate [2, 2] (.seated 7 70 700) default).1 [2, 2] ∧
      (twoNodeCycle.propagate [2, 2] (.seated 7 70 700) default).2.AttributedTo twoNodeCycle.map
        (.seated 7 70 700) default :=
  ⟨twoNodeCycle_arises, propagate_plan_isDelta twoNodeCycle_arises [2, 2] (.seated 7 70 700) default⟩

end Snapshot

end LearningMap
