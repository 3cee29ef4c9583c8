import LearningMap.Proofs.Graph.Percentage
import LearningMap.Proofs.Service.Calls
import LearningMap.Service.View

/-!
# What the view of a node shows

On a settled store, a node shows a rule as completed exactly if it shows all its arrows as resolved.
A run of submissions and reviews that starts without progress never leaves the settled stores.
-/

namespace LearningMap

namespace Tables

variable {t : Tables} {scope : Scope} {n : Row.Node}

theorem mem_rulesFor {node : Id} {q : Row.Rule} :
    q ∈ t.rulesFor node ↔ q ∈ t.rules ∧ q.node = node ∧ q.deletedAt = none := by
  simp only [rulesFor, mem_byId, List.mem_filter, Bool.and_eq_true, beq_iff_eq,
    Option.isNone_iff_eq_none]

theorem mem_edgesInto_of_rule (distinct : (t.rules.map (·.id)).Nodup) {q : Row.Rule}
    (hq : q ∈ t.rules) (live : q.deletedAt = none) {i : Id} :
    i ∈ ((t.edgesInto q.node).filter (·.rule == q.id)).map (·.id) ↔ i ∈ t.arrowsInto q.id := by
  simp only [edgesInto, List.mem_map, List.mem_filter, beq_iff_eq, mem_arrowsInto]
  constructor
  · rintro ⟨e, ⟨⟨he, -⟩, hrule⟩, rfl⟩
    obtain ⟨a, ha, alive, r, -, rfl⟩ := mem_edges.mp he
    exact ⟨a, ha, alive, hrule, rfl⟩
  · rintro ⟨a, ha, alive, hrule, rfl⟩
    have found : t.ruleOf? a = some q := (ruleOf?_eq_some_iff distinct).mpr ⟨hq, live, hrule.symm⟩
    exact ⟨_, ⟨⟨mem_edges.mpr ⟨a, ha, alive, q, found, rfl⟩, rfl⟩, hrule⟩, rfl⟩

theorem of_mem_nodeView {v : RuleView} (hv : v ∈ (t.nodeView n scope).rules)
    (distinct : (t.rules.map (·.id)).Nodup) :
    ∃ q ∈ t.rules, q.deletedAt = none ∧ q.node = n.id ∧ q.id = v.rule ∧
      (v.completed = true ↔ (n.id, q.id) ∈ t.completedPairs n.map scope) ∧
      (v.progress.percentage = 100 ↔ t.FullyResolved scope q.id) := by
  simp only [nodeView, List.mem_map] at hv
  obtain ⟨q, hq, rfl⟩ := hv
  obtain ⟨hq, hnode, live⟩ := mem_rulesFor.mp hq
  refine ⟨q, hq, live, hnode, rfl, by simp, ?_⟩
  have own : ∀ i, i ∈ ((t.edgesInto n.id).filter (·.rule == q.id)).map (·.id) ↔
      i ∈ t.arrowsInto q.id := by
    intro i
    rw [← hnode]
    exact mem_edgesInto_of_rule distinct hq live
  have resolved : ∀ i ∈ t.arrowsInto q.id,
      i ∈ t.resolvedAmong (((t.edgesInto n.id).map (·.toArrow)).map (·.id)) scope ↔
        t.Resolved scope i := by
    intro i hi
    obtain ⟨e, he, hid⟩ := List.mem_map.mp ((own i).mpr hi)
    have shown : i ∈ ((t.edgesInto n.id).map (·.toArrow)).map (·.id) := by
      rw [List.map_map]
      exact List.mem_map.mpr ⟨e, (List.mem_filter.mp he).1, hid⟩
    rw [mem_resolvedAmong, and_iff_right shown]
  rw [percentage_eq_hundred_iff]
  simp only [IdSet.mem_ofList, own]
  constructor
  · rintro ⟨⟨i, hi⟩, all⟩
    obtain ⟨a, ha, alive, hrule, -⟩ := mem_arrowsInto.mp hi
    refine ⟨⟨a, ha, alive, hrule⟩, fun b hb blive brule => ?_⟩
    have among : b.id ∈ t.arrowsInto q.id := mem_arrowsInto.mpr ⟨b, hb, blive, brule, rfl⟩
    exact (resolved b.id among).mp (all b.id among)
  · rintro ⟨⟨a, ha, alive, hrule⟩, all⟩
    refine ⟨⟨a.id, mem_arrowsInto.mpr ⟨a, ha, alive, hrule, rfl⟩⟩, fun i hi => ?_⟩
    obtain ⟨b, hb, blive, brule, rfl⟩ := mem_arrowsInto.mp hi
    exact (resolved b.id hi).mpr (all b hb blive brule)

end Tables

namespace Store.Settled

variable {s : Store} {scope : Scope} (h : s.Settled)
include h

theorem recorded_iff {q : Row.Rule} (hq : q ∈ s.tables.rules) (live : q.deletedAt = none) :
    s.tables.Recorded scope q.id ↔ s.tables.FullyResolved scope q.id :=
  h.sound.recorded_iff_fullyResolved h.consistent hq live (h.settled q.map scope)

theorem map_of_fullyResolved {q : Row.Rule} (hq : q ∈ s.tables.rules) {n : Row.Node}
    (hn : n ∈ s.tables.nodes) (hnode : q.node = n.id)
    (full : s.tables.FullyResolved scope q.id) : q.map = n.map := by
  obtain ⟨⟨a, ha, -, hrule⟩, -⟩ := full
  rw [h.consistent.rule a ha q hq hrule.symm, h.consistent.target a ha q hq hrule.symm n hn hnode.symm]

theorem mem_completedPairs_of_map_iff {map node rule : Id} :
    (node, rule) ∈ s.tables.completedPairs map scope ↔
      ∃ r, (s.tables.snapshot map scope).rules[rule]? = some r ∧ r.node = node ∧
        rule ∈ (s.tables.snapshot map scope).progress.rules := by
  rw [Tables.mem_completedPairs, Tables.mem_rules_snapshot]
  simp only [Tables.getElem?_rules_snapshot h.sound.lawful.nodup_rules]
  constructor
  · rintro ⟨r, hr, seen, rfl, rfl, rfl⟩
    obtain ⟨q, hq, live, hid, hnode⟩ := h.origin r hr
    have same_map := h.sound.booked.map_of_rule r hr q hq hid
    exact ⟨_, ⟨q, hq, live, same_map.symm, hid, rfl⟩, hnode, r.node, r, hr, seen, rfl, rfl, rfl⟩
  · rintro ⟨_, ⟨q, hq, -, -, hid, rfl⟩, rfl, _, r, hr, seen, same_map, rfl, same_rule⟩
    obtain ⟨q', hq', -, hid', hnode⟩ := h.origin r hr
    obtain rfl : q' = q := List.inj_on_of_nodup_map h.sound.lawful.nodup_rules hq' hq
      (hid'.trans (same_rule.trans hid.symm))
    exact ⟨r, hr, seen, same_map, hnode.symm, same_rule⟩

theorem mem_completedPairs_iff {q : Row.Rule} (hq : q ∈ s.tables.rules) (live : q.deletedAt = none)
    {n : Row.Node} (hn : n ∈ s.tables.nodes) (hnode : q.node = n.id) :
    (n.id, q.id) ∈ s.tables.completedPairs n.map scope ↔ s.tables.FullyResolved scope q.id := by
  have recorded_iff : q.id ∈ (s.tables.snapshot q.map scope).progress.rules ↔
      s.tables.FullyResolved scope q.id := (h.sound.mem_rules_iff hq).trans (h.recorded_iff hq live)
  rw [h.mem_completedPairs_of_map_iff]
  simp only [Tables.getElem?_rules_snapshot h.sound.lawful.nodup_rules]
  constructor
  · rintro ⟨_, ⟨q', hq', -, on_map, hid, rfl⟩, -, recorded⟩
    obtain rfl := List.inj_on_of_nodup_map h.sound.lawful.nodup_rules hq' hq hid
    rw [← on_map] at recorded
    exact recorded_iff.mp recorded
  · intro full
    have on_map := h.map_of_fullyResolved hq hn hnode full
    rw [← on_map]
    exact ⟨_, ⟨q, hq, live, rfl, rfl, rfl⟩, hnode, recorded_iff.mpr full⟩

theorem mem_completedNodes_of_map_iff {map n : Id} :
    n ∈ s.tables.completedNodes map scope ↔
      ∃ q ∈ s.tables.rules, q.deletedAt = none ∧ q.map = map ∧ q.node = n ∧
        s.tables.FullyResolved scope q.id := by
  rw [Tables.mem_completedNodes]
  simp only [h.mem_completedPairs_of_map_iff,
    Tables.getElem?_rules_snapshot h.sound.lawful.nodup_rules]
  constructor
  · rintro ⟨_, _, ⟨q, hq, live, rfl, rfl, rfl⟩, rfl, recorded⟩
    have full := (h.recorded_iff hq live).mp ((h.sound.mem_rules_iff hq).mp recorded)
    exact ⟨q, hq, live, rfl, rfl, full⟩
  · rintro ⟨q, hq, live, rfl, rfl, full⟩
    have recorded := (h.sound.mem_rules_iff hq).mpr ((h.recorded_iff hq live).mpr full)
    exact ⟨q.id, _, ⟨q, hq, live, rfl, rfl, rfl⟩, rfl, recorded⟩

theorem mem_completedNodes_iff {n : Row.Node} (hn : n ∈ s.tables.nodes) :
    n.id ∈ s.tables.completedNodes n.map scope ↔
      ∃ q ∈ s.tables.rules, q.deletedAt = none ∧ q.node = n.id ∧
        s.tables.FullyResolved scope q.id := by
  rw [h.mem_completedNodes_of_map_iff]
  refine exists_congr fun q => and_congr_right fun hq => and_congr_right fun live => ?_
  exact ⟨fun ⟨_, hnode, full⟩ => ⟨hnode, full⟩,
    fun ⟨hnode, full⟩ => ⟨h.map_of_fullyResolved hq hn hnode full, hnode, full⟩⟩

theorem node_of_start {a : Row.Arrow} (ha : a ∈ s.tables.arrows) :
    ∃ n ∈ s.tables.nodes, n.id = a.start ∧ n.map = a.map := by
  have table : s.LawfulAt Row.Arrow := h.sound.lawful .arrows
  have found := dangling?_eq_none_iff.mp (table.referenced a ha)
    ⟨"start_node_id", .nodes, a.start⟩ (by simp [Entity.references])
  obtain ⟨n, hn, hid⟩ := List.mem_map.mp found
  exact ⟨n, hn, hid, h.consistent.start a ha n hn hid⟩

/-- A node shows a rule as completed exactly if it shows it at a hundred percent. -/
theorem completed_iff_hundred {n : Row.Node} (hn : n ∈ s.tables.nodes) {v : RuleView}
    (hv : v ∈ (s.tables.nodeView n scope).rules) :
    v.completed = true ↔ v.progress.percentage = 100 := by
  obtain ⟨q, hq, live, hnode, -, completed, hundred⟩ :=
    Tables.of_mem_nodeView hv h.sound.lawful.nodup_rules
  rw [completed, hundred, h.mem_completedPairs_iff hq live hn hnode]

end Store.Settled

namespace Action

theorem yields_viewNode {s s' : Store} {member node : Id} {seat : Option Id} {view : NodeView}
    (done : (viewNode member node seat).Yields s view s') :
    ∃ n ∈ s.tables.nodes, ∃ scope, view = s.tables.nodeView n scope := by
  replace done := yields_query_bind.mp done
  obtain ⟨n, hn, done⟩ := yields_orRefuse_bind.mp done
  obtain ⟨scope, -, done⟩ := (reads_resolveScope _ _ _).yields_bind.mp done
  obtain ⟨rfl, -⟩ := yields_query.mp done
  exact ⟨n, (Tables.mem_of_node? hn).1, scope, rfl⟩

end Action

namespace Store

variable {s : Store}

theorem settled_of_no_progress (lawful : s.Lawful) (consistent : s.tables.MapConsistent)
    (positive : ∀ r ∈ s.tables.seats, 0 < r.id) (no_progress : s.tables.progresses = [])
    (no_history : s.tables.histories = []) : s.Settled := by
  have no_arrow : ∀ map scope i, i ∉ (s.tables.snapshot map scope).progress.arrows := by
    intro map scope i hi
    simp [Tables.mem_arrows_snapshot, no_progress] at hi
  have no_rule : ∀ map scope i, i ∉ (s.tables.snapshot map scope).progress.rules := by
    intro map scope i hi
    simp [Tables.mem_rules_snapshot, no_history] at hi
  have booked : s.tables.Booked := by
    refine ⟨?_, ?_, ?_⟩ <;> simp [no_progress, no_history]
  refine ⟨⟨lawful, booked, positive⟩, consistent, by simp [no_history], fun map scope => ⟨?_, ?_⟩⟩
  · intro i r _ recorded
    exact absurd recorded (no_rule map scope i)
  · intro i r _ earned
    obtain ⟨⟨j, hj⟩, all⟩ := earned
    exact absurd (all j hj) (no_arrow map scope j)

/-- A store in which nothing has been resolved or completed. -/
structure Fresh (s : Store) : Prop where
  lawful : s.Lawful
  consistent : s.tables.MapConsistent
  positive : ∀ r ∈ s.tables.seats, 0 < r.id
  no_progress : s.tables.progresses = []
  no_history : s.tables.histories = []

/-- A store to which some submissions and reviews lead from no progress. -/
def Reached (s : Store) : Prop := ∃ start calls, Fresh start ∧ s = start.after calls

theorem Fresh.reached (h : s.Fresh) (calls : List Call) : (s.after calls).Reached :=
  ⟨s, calls, h, rfl⟩

theorem Reached.settled (h : s.Reached) : s.Settled := by
  obtain ⟨start, calls, fresh, rfl⟩ := h
  exact (settled_of_no_progress fresh.lawful fresh.consistent fresh.positive fresh.no_progress
    fresh.no_history).after calls

/-- After any run of submissions and reviews from no progress, exactly the satisfied rules are
recorded, and the views of nodes and the completed nodes say the same. -/
theorem recorded_iff_satisfied_after (lawful : s.Lawful) (consistent : s.tables.MapConsistent)
    (positive : ∀ r ∈ s.tables.seats, 0 < r.id) (no_progress : s.tables.progresses = [])
    (no_history : s.tables.histories = []) (calls : List Call) :
    s.SameCourse (s.after calls) ∧
    (∀ scope, ∀ q ∈ s.tables.rules, q.deletedAt = none →
      ((s.after calls).tables.Recorded scope q.id ↔
        (s.after calls).tables.FullyResolved scope q.id)) ∧
    (∀ {member node seat view s'},
      (Action.viewNode member node seat).Yields (s.after calls) view s' →
        ∀ v ∈ view.rules, v.completed = true ↔ v.progress.percentage = 100) ∧
    ∀ scope, ∀ n ∈ s.tables.nodes,
      n.id ∈ (s.after calls).tables.completedNodes n.map scope ↔
        ∃ q ∈ s.tables.rules, q.deletedAt = none ∧ q.node = n.id ∧
          (s.after calls).tables.FullyResolved scope q.id := by
  have settled := (settled_of_no_progress lawful consistent positive no_progress no_history).after
    calls
  have course : s.SameCourse (s.after calls) := stepwise_sameCourse.after s calls
  obtain ⟨_, _, _, _, same⟩ := course
  have rules : (s.after calls).tables.rules = s.tables.rules := by rw [same]
  have nodes : (s.after calls).tables.nodes = s.tables.nodes := by rw [same]
  refine ⟨⟨_, _, _, _, same⟩, ?_, ?_, ?_⟩
  · intro scope q hq live
    exact settled.recorded_iff (rules ▸ hq) live
  · intro member node seat view s' done v hv
    obtain ⟨n, hn, scope, rfl⟩ := Action.yields_viewNode done
    exact settled.completed_iff_hundred hn hv
  · intro scope n hn
    rw [← rules]
    exact settled.mem_completedNodes_iff (nodes ▸ hn)

end Store

/-- A map of two nodes, whose members 1 and 2 have seats in one play. The question of its one arrow
accepts whatever file comes in. -/
def lesson : Store where
  tables :=
    { members := [⟨1, "ada", none, true, default⟩, ⟨2, "ben", none, true, default⟩]
      maps := [⟨1, "Map", false, 1, none, default⟩]
      nodes := [⟨1, 1, "S", "", "", true, none, default⟩, ⟨2, 1, "T", "", "", true, none, default⟩]
      rules := [⟨1, 1, 2, "", none, default⟩]
      questions := [⟨1, 1, "Q", "", ["file"], "manual", true, none, none, none, default⟩]
      arrows := [⟨1, 1, 1, 1, some 1, none, default⟩]
      plays := [⟨5, 1, "", 1, none, default⟩]
      seats := [⟨1, 5, 1, "participant", false, default⟩,
        ⟨2, 5, 2, "participant", false, default⟩] }
  last := fun _ => 5

/-- Member 1 submits a file, member 2 answers a question that does not exist, then rejects the
answer of member 1. -/
def lessonCalls : List Call :=
  [.submit default 1 1 ⟨none, [⟨"", ""⟩], some 1⟩, .submit default 2 9 {},
    .review default 2 6 ⟨false, none⟩]

theorem lesson_consistent : lesson.tables.MapConsistent where
  start := by decide
  rule := by decide
  target := by decide
  question := by decide

/-- What member 1 submitted is recorded for the seat of member 2, although it was rejected. -/
theorem lesson_recorded : (lesson.after lessonCalls).tables.Recorded (.seated 2 2 5) 1 := by
  have seen : (lesson.after lessonCalls).tables.histories.any (fun r =>
      (lesson.after lessonCalls).tables.visible (.seated 2 2 5) r.member r.seat && r.rule == 1) =
        true := by cbv
  obtain ⟨r, hr, seen⟩ := List.any_eq_true.mp seen
  rw [Bool.and_eq_true, beq_iff_eq] at seen
  exact ⟨r, hr, seen⟩

theorem recorded_iff_satisfied_in_lesson :
    lesson.Lawful ∧ lesson.tables.MapConsistent ∧ (∀ r ∈ lesson.tables.seats, 0 < r.id) ∧
      lesson.tables.progresses = [] ∧ lesson.tables.histories = [] ∧
      (lesson.after lessonCalls).tables.FullyResolved (.seated 2 2 5) 1 ∧
      2 ∈ (lesson.after lessonCalls).tables.completedNodes 1 (.seated 2 2 5) ∧
      ∃ view s', (Action.viewNode 2 2 (some 2)).Yields (lesson.after lessonCalls) view s' ∧
        ∀ v ∈ view.rules, v.completed = true ↔ v.progress.percentage = 100 := by
  have lawful : lesson.Lawful := by decide
  have positive : ∀ r ∈ lesson.tables.seats, 0 < r.id := by decide
  obtain ⟨-, satisfied, shown, completed⟩ :=
    Store.recorded_iff_satisfied_after lawful lesson_consistent positive rfl rfl lessonCalls
  have full : (lesson.after lessonCalls).tables.FullyResolved (.seated 2 2 5) 1 :=
    (satisfied _ ⟨1, 1, 2, "", none, default⟩ (by decide) rfl).mp lesson_recorded
  refine ⟨lawful, lesson_consistent, positive, rfl, rfl, full, ?_, ?_⟩
  · apply (completed _ ⟨2, 1, "T", "", "", true, none, default⟩ (by decide)).mpr
    exact ⟨⟨1, 1, 2, "", none, default⟩, by decide, rfl, rfl, full⟩
  · obtain ⟨view, s', done⟩ := Action.exists_yields_of_isOk (Action.viewNode 2 2 (some 2))
      (lesson.after lessonCalls) (by cbv)
    exact ⟨view, s', done, shown done⟩

end LearningMap
