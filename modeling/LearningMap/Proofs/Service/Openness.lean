import LearningMap.Proofs.Service.Hindrance
import LearningMap.Proofs.Service.View

/-!
# Open questions

A node shows a question as open by the start node of its arrow alone: it is completed, through any of
its rules. A submission asks for more: every node with an arrow into the start node has to be
completed, whatever rule the arrow belongs to. Hence an open question can be answered exactly if
these nodes are completed as well. A node without a rule never is.
-/

namespace LearningMap

theorem questionStatus_eq_inProgress_iff {arrow : Arrow} {solved active entry : Bool}
    {status : Status} {done : IdSet} :
    questionStatus arrow solved active status entry done = .inProgress ↔
      solved = false ∧ active = true ∧
        (entry = true ∨ arrow.start ∈ done ∨
          arrow.start = arrow.target ∧ status = .inProgress) := by
  unfold questionStatus
  cases solved with
  | true => simp
  | false =>
    cases active with
    | false => simp
    | true => simp [Arrow.isSelfLoop, or_iff_not_imp_left]

namespace Tables

/-- A scope has fully resolved a live rule of a node. -/
def Completed (t : Tables) (scope : Scope) (node : Id) : Prop :=
  ∃ q ∈ t.rules, q.deletedAt = none ∧ q.node = node ∧ t.FullyResolved scope q.id

/-- A live arrow leads from one node into another one. -/
def Feeds (t : Tables) (feeder node : Id) : Prop :=
  ∃ e ∈ t.edges, e.target = node ∧ e.start = feeder ∧ feeder ≠ node

variable {t : Tables} {scope : Scope} {n : Row.Node}

theorem mem_missingFor {a : Row.Arrow} {node : Id} :
    node ∈ Action.missingFor t a scope ↔
      t.Feeds node a.start ∧ node ∉ t.completedNodes a.map scope := by
  simp only [Action.missingFor, mem_missingPrerequisites, List.mem_map, edgesInto, List.mem_filter,
    beq_iff_eq]
  constructor
  · rintro ⟨_, ⟨e, ⟨he, target⟩, rfl⟩, -, differ, missing, rfl⟩
    exact ⟨⟨e, he, target, rfl, target ▸ differ⟩, missing⟩
  · rintro ⟨⟨e, he, target, rfl, differ⟩, missing⟩
    exact ⟨e.toArrow, ⟨e, ⟨he, target⟩, rfl⟩, target, target ▸ differ, missing, rfl⟩

theorem not_feeds_of_isEntry {node : Id}
    (entry : isEntry ((t.edgesInto node).map (·.toArrow)) = true) (feeder : Id) :
    ¬ t.Feeds feeder node := by
  rintro ⟨e, he, target, start, differ⟩
  have among : e.toArrow ∈ (t.edgesInto node).map (·.toArrow) :=
    List.mem_map_of_mem (List.mem_filter.mpr ⟨he, beq_iff_eq.mpr target⟩)
  have own := List.all_eq_true.mp entry e.toArrow among
  rw [Arrow.isSelfLoop, beq_iff_eq] at own
  exact differ (start.symm.trans (own.trans target))

/-- A question of a node belongs to an arrow into the node. If it is shown as open, the node is an
entry node, or the start node of the arrow is completed, or the arrow is a self-loop of a node in
progress. -/
theorem of_mem_questions {v : RuleView} (hv : v ∈ (t.nodeView n scope).rules) {shown : QuestionView}
    (hshown : shown ∈ v.questions) :
    ∃ e ∈ t.edges, e.target = n.id ∧ e.id = shown.arrow ∧ e.question = some shown.question ∧
      (shown.status = .inProgress → n.active = true ∧
        (isEntry ((t.edgesInto n.id).map (·.toArrow)) = true ∨
          e.start ∈ t.completedNodes n.map scope ∨
          e.start = n.id ∧ (t.nodeView n scope).status = .inProgress)) := by
  simp only [nodeView, List.mem_map] at hv
  obtain ⟨q, -, rfl⟩ := hv
  obtain ⟨e, he, hq⟩ := List.mem_filterMap.mp hshown
  obtain ⟨question, hquestion, rfl⟩ := Option.map_eq_some_iff.mp hq
  obtain ⟨he, -⟩ := List.mem_filter.mp he
  obtain ⟨he, target⟩ := List.mem_filter.mp he
  rw [beq_iff_eq] at target
  refine ⟨e, he, target, rfl, hquestion, fun opened => ?_⟩
  obtain ⟨-, active, reason⟩ := questionStatus_eq_inProgress_iff.mp opened
  refine ⟨active, reason.imp_right (Or.imp ?_ ?_)⟩
  · intro done
    obtain ⟨⟨node, rule⟩, pair, hnode⟩ := List.mem_map.mp (IdSet.mem_ofList.mp done)
    exact mem_completedNodes.mpr ⟨rule, hnode ▸ pair⟩
  · rintro ⟨loop, status⟩
    exact ⟨loop.trans target, status⟩

end Tables

namespace Store.Settled

variable {s : Store} {scope : Scope} (h : s.Settled)
include h

theorem node_of_feeds {a : Row.Arrow} (ha : a ∈ s.tables.arrows) {feeder : Id}
    (feeds : s.tables.Feeds feeder a.start) :
    ∃ n ∈ s.tables.nodes, n.id = feeder ∧ n.map = a.map := by
  obtain ⟨e, he, target, rfl, -⟩ := feeds
  obtain ⟨b, hb, -, q, hq, rfl⟩ := Tables.mem_edges.mp he
  obtain ⟨hq, -, hid⟩ := (Tables.ruleOf?_eq_some_iff h.sound.lawful.nodup_rules).mp hq
  obtain ⟨start, hstart, start_id, start_map⟩ := h.node_of_start ha
  obtain ⟨n, hn, n_id, n_map⟩ := h.node_of_start hb
  have same_map : start.map = b.map :=
    h.consistent.target b hb q hq hid start hstart (start_id.trans target.symm)
  exact ⟨n, hn, n_id, n_map.trans (same_map.symm.trans start_map)⟩

theorem missingFor_isEmpty_iff {a : Row.Arrow} (ha : a ∈ s.tables.arrows) :
    (Action.missingFor s.tables a scope).isEmpty = true ↔
      ∀ feeder, s.tables.Feeds feeder a.start → s.tables.Completed scope feeder := by
  have completed_iff : ∀ feeder, s.tables.Feeds feeder a.start →
      (feeder ∈ s.tables.completedNodes a.map scope ↔ s.tables.Completed scope feeder) := by
    intro feeder feeds
    obtain ⟨n, hn, rfl, same_map⟩ := h.node_of_feeds ha feeds
    rw [← same_map]
    exact h.mem_completedNodes_iff hn
  rw [← Bool.not_eq_false, IdSet.isEmpty_eq_false_iff_exists]
  simp only [Tables.mem_missingFor, not_exists, not_and, not_not]
  exact forall₂_congr completed_iff

end Store.Settled

namespace Store

variable {s : Store} {scope : Scope} {n : Row.Node} {v : RuleView} {shown : QuestionView}
  {a : Row.Arrow}

/-- A question that a node shows as open, on any store that calls lead to. It passes the check of the
prerequisites exactly if all nodes that feed the start node of its arrow are completed, and this
decides whether a submission is hindered. An entry node has no such nodes. On any other node, what
makes the question open is that the start node is completed, or that it is the node itself, in
progress. -/
theorem open_answerable_iff_feeders_completed (h : s.Reached)
    (hv : v ∈ (s.tables.nodeView n scope).rules) (hshown : shown ∈ v.questions)
    (opened : shown.status = .inProgress) (harrow : s.tables.arrowOf? shown.question = some a)
    (own : a.id = shown.arrow) :
    ((Action.checkPrerequisites (some a) scope).Yields s () s ↔
      ∀ feeder, s.tables.Feeds feeder a.start → s.tables.Completed scope feeder) ∧
    (isEntry ((s.tables.edgesInto n.id).map (·.toArrow)) = true →
      (Action.checkPrerequisites (some a) scope).Yields s () s) ∧
    (isEntry ((s.tables.edgesInto n.id).map (·.toArrow)) = false →
      s.tables.Completed scope a.start ∨
        a.start = n.id ∧ (s.tables.nodeView n scope).status = .inProgress) ∧
    ∀ {now member sub q}, s.tables.question? shown.question = some q →
      (Action.resolveScope member q.map sub.seat).Yields s scope s →
      ((∀ feeder, s.tables.Feeds feeder a.start → s.tables.Completed scope feeder) →
        ∀ {e s'}, Action.submit now member shown.question sub s = (.error e, s') →
          e.hinders = false) ∧
      ∀ {o s'}, (Action.submit now member shown.question sub).Yields s o s' →
        ∀ feeder, s.tables.Feeds feeder a.start → s.tables.Completed scope feeder := by
  have settled := h.settled
  obtain ⟨ha, -, -⟩ := Tables.mem_of_arrowOf? harrow
  obtain ⟨e, he, target, hid, -, reason⟩ := Tables.of_mem_questions hv hshown
  have start : e.start = a.start := by
    obtain ⟨b, hb, -, q, -, rfl⟩ := Tables.mem_edges.mp he
    have same : b = a := List.inj_on_of_nodup_map settled.sound.lawful.nodup_arrows hb ha
      (hid.trans own.symm)
    exact congrArg (·.start) same
  have passes_iff : (Action.checkPrerequisites (some a) scope).Yields s () s ↔
      ∀ feeder, s.tables.Feeds feeder a.start → s.tables.Completed scope feeder := by
    rw [Action.yields_checkPrerequisites, and_iff_left rfl, settled.missingFor_isEmpty_iff ha]
  refine ⟨passes_iff, ?entry, ?inner, ?submission⟩
  case entry =>
    intro entry
    have among : e.toArrow ∈ (s.tables.edgesInto n.id).map (·.toArrow) :=
      List.mem_map_of_mem (List.mem_filter.mpr ⟨he, beq_iff_eq.mpr target⟩)
    have loop : e.start = e.target := beq_iff_eq.mp (List.all_eq_true.mp entry e.toArrow among)
    have at_node : a.start = n.id := start.symm.trans (loop.trans target)
    rw [← at_node] at entry
    exact passes_iff.mpr fun feeder feeds => absurd feeds (Tables.not_feeds_of_isEntry entry feeder)
  case inner =>
    intro inner
    rw [start] at reason
    refine ((reason opened).2.resolve_left (by simp [inner])).imp_left fun done => ?_
    obtain ⟨q, hq, live, -, hnode, full⟩ := settled.mem_completedNodes_of_map_iff.mp done
    exact ⟨q, hq, live, hnode, full⟩
  case submission =>
    intro now member sub q hq acting
    constructor
    · intro completed failure s' failed
      rw [← settled.missingFor_isEmpty_iff ha] at completed
      by_contra hinders
      -- The refusal is about this arrow and this scope, where nothing is missing.
      obtain ⟨q', hq', scope', acting', arrow, harrow', missing⟩ :=
        Action.missing_of_error_submit failed (Bool.eq_true_of_not_eq_false hinders)
      obtain rfl : q = q' := Option.some.inj (hq.symm.trans hq')
      obtain rfl : scope = scope' := acting.value_eq acting'
      obtain rfl : a = arrow := Option.some.inj (harrow.symm.trans harrow')
      rw [completed] at missing
      cases missing
    · intro o s' done
      obtain ⟨q', hq', acting', permitted, -⟩ := Action.yields_submit done
      obtain rfl : q = q' := Option.some.inj (hq.symm.trans hq')
      rw [harrow, ← acting.value_eq acting'] at permitted
      exact passes_iff.mp permitted

end Store

/-- Questions 1 and 2 lead from the entry node 1 over node 2 to node 3. Node 1 may have a rule, with
an arrow from itself. -/
def relay (loop : Bool) : Store where
  tables :=
    { members := [⟨1, "ada", none, true, default⟩]
      maps := [⟨1, "Map", false, 1, none, default⟩]
      nodes := [⟨1, 1, "M", "", "", true, none, default⟩, ⟨2, 1, "S", "", "", true, none, default⟩,
        ⟨3, 1, "T", "", "", true, none, default⟩]
      rules := [⟨1, 1, 2, "", none, default⟩, ⟨2, 1, 3, "", none, default⟩] ++
        if loop then [⟨3, 1, 1, "", none, default⟩] else []
      questions := [⟨1, 1, "Q", "", ["file"], "manual", true, none, none, none, default⟩,
        ⟨2, 1, "Q", "", ["file"], "manual", true, none, none, none, default⟩]
      arrows := [⟨1, 1, 1, 1, some 1, none, default⟩, ⟨2, 1, 2, 2, some 2, none, default⟩] ++
        if loop then [⟨3, 1, 1, 3, none, none, default⟩] else [] }
  last := fun _ => 5

theorem relay_fresh (loop : Bool) : (relay loop).Fresh := by
  cases loop <;>
    exact ⟨by decide, ⟨by decide, by decide, by decide, by decide⟩, by decide, rfl, rfl⟩

def relaySubmission : Submission := ⟨none, [⟨"a", "f"⟩], none⟩

def relayed (loop : Bool) : Store := (relay loop).after [.submit default 1 1 relaySubmission]

theorem relayed_reached (loop : Bool) : (relayed loop).Reached := (relay_fresh loop).reached _

def relayGoal : Row.Node := ⟨3, 1, "T", "", "", true, none, default⟩

def relayArrow : Row.Arrow := ⟨2, 1, 2, 2, some 2, none, default⟩

def relayView : RuleView := ⟨2, "", true, ⟨1, 1, 100⟩, [⟨2, 2, .inProgress⟩]⟩

/-- If node 1 has a rule, it has been left and completed with the others, and the open question can be
answered. -/
theorem open_answerable_in_relay :
    (relayed true).Reached ∧
      relayView ∈ ((relayed true).tables.nodeView relayGoal (.solo 1)).rules ∧
      ⟨2, 2, .inProgress⟩ ∈ relayView.questions ∧
      (relayed true).tables.arrowOf? 2 = some relayArrow ∧ relayArrow.id = 2 ∧
      (Action.checkPrerequisites (some relayArrow) (.solo 1)).Yields (relayed true) ()
        (relayed true) ∧
      ∀ feeder, (relayed true).tables.Feeds feeder 2 →
        (relayed true).tables.Completed (.solo 1) feeder := by
  have rules : ((relayed true).tables.nodeView relayGoal (.solo 1)).rules = [relayView] := by cbv
  have shown : relayView ∈ ((relayed true).tables.nodeView relayGoal (.solo 1)).rules := by
    rw [rules]
    exact List.mem_singleton.mpr rfl
  have own : ⟨2, 2, .inProgress⟩ ∈ relayView.questions := List.mem_singleton.mpr rfl
  have arrow : (relayed true).tables.arrowOf? 2 = some relayArrow := by cbv
  obtain ⟨passes_iff, -⟩ := Store.open_answerable_iff_feeders_completed (relayed_reached true) shown
    own rfl arrow rfl
  obtain ⟨⟨⟩, s', passes⟩ := Action.exists_yields_of_isOk
    (Action.checkPrerequisites (some relayArrow) (.solo 1)) (relayed true) (by cbv)
  obtain rfl := (Action.reads_checkPrerequisites _ _).store_eq passes
  exact ⟨relayed_reached true, shown, own, arrow, rfl, passes, passes_iff.mp passes⟩

/-- Without a rule, node 1 is never completed. The question is open all the same, and its answer is
refused. -/
theorem open_question_hindered :
    (relayed false).Reached ∧ relayGoal ∈ (relayed false).tables.nodes ∧
      relayGoal.deletedAt = none ∧
      relayView ∈ ((relayed false).tables.nodeView relayGoal (.solo 1)).rules ∧
      ⟨2, 2, .inProgress⟩ ∈ relayView.questions ∧
      (relayed false).tables.arrowOf? 2 = some relayArrow ∧
      (∀ s', ¬ (Action.checkPrerequisites (some relayArrow) (.solo 1)).Yields (relayed false) () s') ∧
      (Action.submit default 1 2 relaySubmission (relayed false)).1 =
        .error (.refused (.prerequisitesIncomplete ["M"])) := by
  have rules : ((relayed false).tables.nodeView relayGoal (.solo 1)).rules = [relayView] := by cbv
  have nodes : (relayed false).tables.nodes = (relay false).tables.nodes := by cbv
  have fails : (Action.checkPrerequisites (some relayArrow) (.solo 1) (relayed false)).1 =
      .error (.refused (.prerequisitesIncomplete ["M"])) := by cbv
  refine ⟨relayed_reached false, ?_, rfl, ?_, List.mem_singleton.mpr rfl, by cbv, ?_, by cbv⟩
  · rw [nodes]
    decide
  · rw [rules]
    exact List.mem_singleton.mpr rfl
  · intro s' passes
    rw [passes] at fails
    cases fails

end LearningMap
