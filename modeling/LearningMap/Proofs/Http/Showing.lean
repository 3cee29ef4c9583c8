import LearningMap.Proofs.Http.Unlocking
import LearningMap.Proofs.Service.Advance

/-!
# What is reported and what a map shows

A call reports the nodes that it completed and the nodes that just gained progress. The latter are
found by the start nodes of arrows, while a map shows a node as in progress by the arrows into it
that were resolved. The two agree because completion leaves every node that it completes, and so has
resolved all arrows from there.
-/

namespace LearningMap

theorem nodeStatus_eq_inProgress_iff {active : Bool} {node : Id} {done resolved : IdSet}
    {incoming : List Arrow} :
    nodeStatus active node done incoming resolved = .inProgress ↔
      active = true ∧ node ∉ done ∧
        ((∃ a ∈ incoming, a.id ∈ resolved) ∨ isEntry incoming = true) := by
  unfold nodeStatus
  cases active with
  | false => simp
  | true =>
    by_cases completed : node ∈ done
    · simp [completed]
    · simp [completed, or_iff_not_imp_left]

theorem mem_incomingArrows {arrows : List Arrow} {node : Id} {a : Arrow} :
    a ∈ (incomingArrows arrows).getD node [] ↔ a ∈ arrows ∧ a.target = node := by
  rw [incomingArrows, IdMap.getD_foldl_group Arrow.target]
  simp

namespace Tables

variable {t : Tables} {scope : Scope} {n : Row.Node}

theorem mem_mapView {map : Id} {status : Status} :
    (n, status) ∈ t.mapView map scope ↔
      (n ∈ t.nodes ∧ n.map = map ∧ n.deletedAt = none) ∧
        nodeStatus n.active n.id (t.completedNodes map scope)
          ((incomingArrows ((t.edgesOf map).map (·.toArrow))).getD n.id [])
          (t.resolvedArrows map scope) = status := by
  have listed : n ∈ t.nodesOf map ↔ n ∈ t.nodes ∧ n.map = map ∧ n.deletedAt = none := by
    simp only [nodesOf, mem_byId, List.mem_filter, Bool.and_eq_true, beq_iff_eq,
      Option.isNone_iff_eq_none]
  rw [← listed]
  simp only [mapView, List.mem_map, Prod.mk.injEq]
  constructor
  · rintro ⟨m, hm, rfl, shown⟩
    exact ⟨hm, shown⟩
  · rintro ⟨hn, shown⟩
    exact ⟨n, hn, rfl, shown⟩

section Live

variable (hn : n ∈ t.nodes) (live : n.deletedAt = none) (active : n.active = true)
include hn live active

theorem mem_mapView_completed (done : n.id ∈ t.completedNodes n.map scope) :
    (n, .completed) ∈ t.mapView n.map scope :=
  mem_mapView.mpr ⟨⟨hn, rfl, live⟩, nodeStatus_eq_completed_iff.mpr ⟨active, done⟩⟩

theorem mem_mapView_inProgress (still_open : n.id ∉ t.completedNodes n.map scope) {e : Edge}
    (he : e ∈ t.edges) (on_map : e.map = n.map) (target : e.target = n.id)
    (resolved : e.id ∈ t.resolvedArrows n.map scope) :
    (n, .inProgress) ∈ t.mapView n.map scope := by
  have own : e ∈ t.edgesOf n.map := List.mem_filter.mpr ⟨he, beq_iff_eq.mpr on_map⟩
  have incoming : e.toArrow ∈
      (incomingArrows ((t.edgesOf n.map).map (·.toArrow))).getD n.id [] :=
    mem_incomingArrows.mpr ⟨List.mem_map_of_mem own, target⟩
  refine mem_mapView.mpr ⟨⟨hn, rfl, live⟩, nodeStatus_eq_inProgress_iff.mpr ?_⟩
  exact ⟨active, still_open, .inl ⟨e.toArrow, incoming, resolved⟩⟩

end Live

end Tables

namespace Store.Settled

variable {s : Store} {scope : Scope} {e : Edge} (h : s.Settled) (he : e ∈ s.tables.edges)
include h he

theorem map_of_completed_start {map : Id} (done : e.start ∈ s.tables.completedNodes map scope) :
    e.map = map := by
  obtain ⟨a, ha, -, q, -, rfl⟩ := Tables.mem_edges.mp he
  obtain ⟨n, hn, start, on_map⟩ := h.node_of_start ha
  rw [← start] at done
  rw [h.map_of_mem_completedNodes hn done]
  exact on_map.symm

theorem node_of_target : ∃ n ∈ s.tables.nodes, n.id = e.target ∧ n.map = e.map := by
  obtain ⟨a, ha, -, q, hq, rfl⟩ := Tables.mem_edges.mp he
  obtain ⟨hq, -, hid⟩ := (Tables.ruleOf?_eq_some_iff h.sound.lawful.nodup_rules).mp hq
  have table : s.LawfulAt Row.Rule := h.sound.lawful .rules
  have found := dangling?_eq_none_iff.mp (table.referenced q hq)
    ⟨"node_id", .nodes, q.node⟩ (by simp [Entity.references])
  obtain ⟨n, hn, target⟩ := List.mem_map.mp found
  exact ⟨n, hn, target, h.consistent.target a ha q hq hid n hn target⟩

theorem map_of_completed_target {map : Id} (done : e.target ∈ s.tables.completedNodes map scope) :
    e.map = map := by
  obtain ⟨n, hn, target, on_map⟩ := h.node_of_target he
  rw [← target] at done
  rw [h.map_of_mem_completedNodes hn done]
  exact on_map.symm

theorem mem_resolvedArrows_iff :
    e.id ∈ s.tables.resolvedArrows e.map scope ↔ s.tables.Resolved scope e.id := by
  obtain ⟨a, ha, -, q, -, rfl⟩ := Tables.mem_edges.mp he
  rw [← Tables.arrows_snapshot]
  exact h.sound.mem_arrows_iff ha

end Store.Settled

namespace Completion

/-- What a completion tells is so in a snapshot: its nodes are completed and left, and what it
activates is found one arrow further on. -/
structure Holds (c : Completion) (s : Snapshot) : Prop where
  completed : ∀ node ∈ c.completedNodes, node ∈ s.progress.nodes
  left : ∀ node ∈ c.completedNodes, ∀ a ∈ s.outgoing node, a.id ∈ s.progress.arrows
  activated : c.activated = activatable s.arrows c.completedNodes s.progress.nodes

/-- What a completion tells is so for a scope. Its nodes are completed and all arrows that leave them
are resolved, and the nodes that it activates are the targets of these arrows, less self-loops and
less nodes that are completed. -/
structure Shown (c : Completion) (t : Tables) (scope : Scope) : Prop where
  completed : ∀ node ∈ c.completedNodes, ∃ map, node ∈ t.completedNodes map scope
  left : ∀ e ∈ t.edges, e.start ∈ c.completedNodes → t.Resolved scope e.id
  activated : ∀ node, node ∈ c.activated ↔ ∃ e ∈ t.edges, e.start ∈ c.completedNodes ∧
    e.start ≠ e.target ∧ (∀ map, e.target ∉ t.completedNodes map scope) ∧ e.target = node

variable {c : Completion} {scope : Scope}

theorem shown_empty (t : Tables) (scope : Scope) : empty.Shown t scope := by
  have none_completed : ∀ node, node ∉ empty.completedNodes := fun node => List.not_mem_nil
  refine ⟨?completed, ?left, ?activated⟩
  case completed => exact fun node told => absurd told (none_completed node)
  case left => exact fun e _ told => absurd told (none_completed e.start)
  case activated =>
    intro node
    have none_activated : node ∉ empty.activated := Std.ExtTreeSet.not_mem_empty
    simp [none_completed, none_activated]

theorem Books.completedNodes_eq {s s' : Store} {run : Run} {now : Timestamp}
    (books : c.Books (.ofRun run scope now) s s') :
    c.completedNodes = (run.recorded.map (·.node)).eraseDups := by
  have pairs := congrArg (List.map Prod.fst) books.pairs_eq
  rw [List.map_map, List.map_map] at pairs
  exact congrArg List.eraseDups pairs

end Completion

namespace Store

variable {s s' : Store} {scope : Scope} {now : Timestamp} {arrow : Row.Arrow} {c : Completion}

/-- Completion from a start node is told as its run ended, and so it is loaded again. -/
theorem Sound.holds_completeStart (h : s.Sound) (consistent : s.tables.MapConsistent)
    (seated : s.tables.SeatedIn scope) (ha : arrow ∈ s.tables.arrows)
    (done : (Action.completeStart now arrow scope).Yields s c s') :
    c.Holds (s'.tables.snapshot arrow.map scope) := by
  obtain ⟨books, -⟩ := h.books_completeStart consistent seated ha done
  have wf : (s.tables.snapshot arrow.map scope).WellFormed := h.wellFormed
  have ext := Snapshot.run_extends wf [arrow.start]
  have recorded : ∀ node ∈ c.completedNodes,
      ∃ q ∈ ((s.tables.snapshot arrow.map scope).run [arrow.start]).recorded, q.node = node := by
    intro node told
    rw [books.completedNodes_eq, List.mem_eraseDups] at told
    exact List.mem_map.mp told
  rw [books.snapshot_of_shares ext h seated (.refl scope)]
  refine ⟨?completed, ?left, ?activated⟩
  case completed =>
    intro node told
    exact ext.mem_nodes.mpr (.inr (recorded node told))
  case left =>
    intro node told a leaving
    obtain ⟨q, hq, rfl⟩ := recorded node told
    rw [Snapshot.outgoing_eq_of_graph ext.graph_eq] at leaving
    exact Snapshot.left_of_visited wf (Snapshot.mem_visited_run.mpr (.inr ⟨q, hq, rfl⟩)) leaving
  case activated =>
    rw [books.completedNodes_eq]
    exact activated_completeStart consistent ha done

/-- What is so in the snapshot of a map is so on the tables: arrows that start at a node which is
completed there, or lead into one, are arrows of that map. -/
theorem Settled.shown_of_holds (h : s.Settled) {map : Id}
    (holds : c.Holds (s.tables.snapshot map scope)) : c.Shown s.tables scope := by
  obtain ⟨completed, left, activated⟩ := holds
  rw [Tables.nodes_snapshot] at completed activated
  rw [Tables.arrows_snapshot] at left
  have on_map : ∀ e ∈ s.tables.edges, e.start ∈ c.completedNodes → e.map = map :=
    fun e he told => h.map_of_completed_start he (completed e.start told)
  have still_open_iff : ∀ e ∈ s.tables.edges, e.map = map →
      (e.target ∉ s.tables.completedNodes map scope ↔
        ∀ map, e.target ∉ s.tables.completedNodes map scope) := by
    rintro e he rfl
    constructor
    · intro still_open map done
      rw [← h.map_of_completed_target he done] at done
      exact still_open done
    · exact fun still_open => still_open e.map
  refine ⟨fun node told => ⟨map, completed node told⟩, ?left, ?activated⟩
  case left =>
    intro e he told
    have same_map := on_map e he told
    have leaving : e.toArrow ∈ (s.tables.snapshot map scope).outgoing e.start :=
      Tables.mem_outgoing_snapshot.mpr ⟨e, he, same_map, rfl, rfl⟩
    have resolved : e.id ∈ s.tables.resolvedArrows map scope := left e.start told _ leaving
    rw [← same_map] at resolved
    exact (h.mem_resolvedArrows_iff he).mp resolved
  case activated =>
    intro node
    simp only [activated, mem_activatable, Snapshot.mem_arrows, Tables.mem_outgoing_snapshot]
    constructor
    · rintro ⟨_, ⟨_, e, he, same_map, -, rfl⟩, told, differ, still_open, target⟩
      exact ⟨e, he, told, differ, (still_open_iff e he same_map).mp still_open, target⟩
    · rintro ⟨e, he, told, differ, still_open, target⟩
      have same_map := on_map e he told
      exact ⟨e.toArrow, ⟨e.start, e, he, same_map, rfl, rfl⟩, told, differ,
        (still_open_iff e he same_map).mpr still_open, target⟩

theorem SettledBut.shown_completeStart (h : s.SettledBut arrow.map scope)
    (seated : s.tables.SeatedIn scope) (ha : arrow ∈ s.tables.arrows)
    (done : (Action.completeStart now arrow scope).Yields s c s') : c.Shown s'.tables scope := by
  have settled := h.completeStart seated ha done
  exact settled.shown_of_holds (h.sound.holds_completeStart h.consistent seated ha done)

theorem Settled.shown_of_spreads (h : s.Settled) (seated : s.tables.SeatedIn scope)
    (ha : arrow ∈ s.tables.arrows) {r : Resolution} (spreads : r.Spreads s scope arrow s') :
    r.completion.Shown s'.tables scope := by
  cases spreads with
  | again => exact Completion.shown_empty _ scope
  | completes _ completed =>
    exact (h.settledBut arrow.map scope).shown_completeStart seated ha completed
  | resolves => exact Completion.shown_empty _ scope
  | unlocks _ stored completed =>
    obtain ⟨settled_but, seated₁, ha₁⟩ := h.settledBut_of_stored seated ha stored
    exact settled_but.shown_completeStart seated₁ ha₁ completed

theorem Settled.shown_of_follows (h : s.Settled) (seated : s.tables.SeatedIn scope)
    {a : Row.Answer} {r : Resolution} (follows : r.Follows s scope a s') :
    r.completion.Shown s'.tables scope := by
  cases follows with
  | spreads found _ done =>
    exact h.shown_of_spreads seated (Tables.mem_of_arrowOf? found).1 done
  | nothing => exact Completion.shown_empty _ scope

end Store

theorem Call.lists_of_yields_run {s s' : Store} {call : Call} {o : Outcome}
    (done : call.run.Yields s o s') :
    ∃ scope a r, call.Does s scope a r s' ∧
      o.data.member? "completed_node_ids" = some (.list .int r.completion.completedNodes) ∧
      o.data.member? "activatable_node_ids" = some (.list .int r.completion.activated.toList) := by
  cases call with
  | submit now member question sub =>
    obtain ⟨p, submitted, rfl⟩ := yields_run_submit done
    exact ⟨p.scope, p.answer, p.resolution, Action.does_submit submitted, rfl, rfl⟩
  | review now reviewer answer r =>
    obtain ⟨p, reviewed, rfl⟩ := yields_run_review done
    exact ⟨p.scope, p.answer, p.resolution, Action.does_review reviewed, rfl, rfl⟩

/-- What a call reports is what the map then shows to the scope that the call acts in, on any store
that calls lead to. The map shows the live and active nodes among the completed ones as completed,
and those among the activatable ones as in progress. The activatable nodes are the targets of the
live arrows that lead from one of the completed nodes into another node, which is not completed. -/
theorem Call.reports_what_the_map_shows {s s' : Store} {call : Call} {o : Outcome} {scope : Scope}
    (reached : s.Reached) (done : call.run.Yields s o s') (acting : call.ActsIn s scope) :
    ∃ completed activatable : List Id,
      o.data.member? "completed_node_ids" = some (.list .int completed) ∧
      o.data.member? "activatable_node_ids" = some (.list .int activatable) ∧
      (∀ n ∈ s'.tables.nodes, n.deletedAt = none → n.active = true →
        (n.id ∈ completed → (n, .completed) ∈ s'.tables.mapView n.map scope) ∧
        (n.id ∈ activatable → (n, .inProgress) ∈ s'.tables.mapView n.map scope)) ∧
      ∀ node, node ∈ activatable ↔
        ∃ e ∈ s'.tables.edges, e.start ∈ completed ∧ e.start ≠ e.target ∧
          (∀ map, e.target ∉ s'.tables.completedNodes map scope) ∧ e.target = node := by
  obtain ⟨acting', a, r, does, completed, activatable⟩ := lists_of_yields_run done
  obtain rfl := acting.unique does.acting
  have performed : s' = call.perform s := by rw [← Call.snd_run, done]
  have settled : s'.Settled := performed ▸ reached.settled.perform call
  have shown : r.completion.Shown s'.tables scope := by
    obtain ⟨s₁, same, -, follows⟩ := does.steps
    exact (reached.settled.frame same).shown_of_follows (same.seatedIn does.seatedIn) follows
  refine ⟨_, _, completed, activatable, fun n hn live active => ⟨?completed, ?in_progress⟩,
    ?activated⟩
  case completed =>
    intro told
    obtain ⟨map, done⟩ := shown.completed n.id told
    rw [settled.map_of_mem_completedNodes hn done] at done
    exact Tables.mem_mapView_completed hn live active done
  case in_progress =>
    intro told
    obtain ⟨e, he, start, -, still_open, target⟩ :=
      (shown.activated n.id).mp (Std.ExtTreeSet.mem_toList.mp told)
    obtain ⟨m, hm, same_id, on_map⟩ := settled.node_of_target he
    have same : m = n := List.inj_on_of_nodup_map (settled.sound.lawful .nodes).sound.distinct hm hn
      (same_id.trans target)
    rw [same] at on_map
    have resolved := (settled.mem_resolvedArrows_iff he).mpr (shown.left e he start)
    rw [← on_map] at resolved
    rw [target] at still_open
    exact Tables.mem_mapView_inProgress hn live active (still_open n.map) he on_map.symm target
      resolved
  case activated =>
    intro node
    rw [Std.ExtTreeSet.mem_toList, shown.activated]

/-- Question 1 leads to node 2. From there an arrow leads into the rule of node 3, which waits for
question 2 as well. -/
def ford : Store where
  tables :=
    { members := [⟨1, "ada", none, true, default⟩]
      maps := [⟨1, "Map", false, 1, none, default⟩]
      nodes := [⟨1, 1, "S", "", "", true, none, default⟩, ⟨2, 1, "T", "", "", true, none, default⟩,
        ⟨3, 1, "U", "", "", true, none, default⟩, ⟨4, 1, "V", "", "", true, none, default⟩]
      rules := [⟨1, 1, 2, "", none, default⟩, ⟨2, 1, 3, "", none, default⟩]
      questions := [⟨1, 1, "Q", "", ["file"], "manual", true, none, none, none, default⟩,
        ⟨2, 1, "Q", "", ["file"], "manual", true, none, none, none, default⟩]
      arrows := [⟨1, 1, 1, 1, some 1, none, default⟩, ⟨2, 1, 2, 2, none, none, default⟩,
        ⟨3, 1, 4, 2, some 2, none, default⟩] }
  last := fun _ => 5

def fordAnswer : Call := .submit default 1 1 ⟨none, [⟨"a", "f"⟩], none⟩

/-- The answer completes node 2, and node 3 is in progress then. -/
theorem reports_what_the_map_shows_at_ford :
    ford.Reached ∧ fordAnswer.ActsIn ford (.solo 1) ∧
      ∃ o s', fordAnswer.run.Yields ford o s' ∧
        o.data.member? "completed_node_ids" = some (.list .int [2]) ∧
        o.data.member? "activatable_node_ids" = some (.list .int [3]) ∧
        (⟨2, 1, "T", "", "", true, none, default⟩, .completed) ∈ s'.tables.mapView 1 (.solo 1) ∧
        (⟨3, 1, "U", "", "", true, none, default⟩, .inProgress) ∈
          s'.tables.mapView 1 (.solo 1) := by
  have fresh : ford.Fresh :=
    ⟨by decide, ⟨by decide, by decide, by decide, by decide⟩, by decide, rfl, rfl⟩
  have reached : ford.Reached := fresh.reached []
  have acting : fordAnswer.ActsIn ford (.solo 1) := ⟨_, rfl, rfl⟩
  have lists : (fordAnswer.run ford).1.map (fun o =>
      (o.data.member? "completed_node_ids", o.data.member? "activatable_node_ids")) =
        .ok (some (.list .int [2]), some (.list .int [3])) := by cbv
  obtain ⟨o, done, told⟩ := Action.exists_yields_of_map lists
  obtain ⟨told_completed, told_activatable⟩ := Prod.mk.inj told
  obtain ⟨completed, activatable, lists_completed, lists_activatable, shown, -⟩ :=
    Call.reports_what_the_map_shows reached done acting
  have ints : Function.Injective (Json.list Json.int) := by
    intro is js same
    exact List.map_injective_iff.mpr (fun _ _ same => Json.Number.whole.inj (Json.num.inj same))
      (Json.arr.inj same)
  obtain rfl : completed = [2] :=
    ints (Option.some.inj (lists_completed.symm.trans told_completed))
  obtain rfl : activatable = [3] :=
    ints (Option.some.inj (lists_activatable.symm.trans told_activatable))
  have nodes : ((fordAnswer.run ford).2).tables.nodes = ford.tables.nodes := by cbv
  refine ⟨reached, acting, o, _, done, told_completed, told_activatable, ?_, ?_⟩
  · exact (shown ⟨2, 1, "T", "", "", true, none, default⟩ (by rw [nodes]; decide) rfl rfl).1
      List.mem_cons_self
  · exact (shown ⟨3, 1, "U", "", "", true, none, default⟩ (by rw [nodes]; decide) rfl rfl).2
      List.mem_cons_self

end LearningMap
