import LearningMap.Proofs.Service.Effect
import LearningMap.Proofs.Service.View

/-!
# Statuses never go back

Calls only add to what a scope has resolved and completed, so the status of a node can only advance.
The status of a question asks whether a node is in progress, which is not kept by progress alone. It
is asked of a self-loop only, and a self-loop whose node is no longer in progress starts at a
completed node. What is lost is at most that a question is solved, by a review that rejects its only
correct answer.
-/

namespace LearningMap

namespace Status

/-- One status is another or comes before it, in the order locked, in progress, completed. -/
inductive Advances : Status → Status → Prop
  | same (a : Status) : Advances a a
  | opens : Advances locked inProgress
  | completes : Advances inProgress completed
  | through : Advances locked completed

/-- The status of a question on a node advances. On an inactive node, a question that is solved
leaves the status deactivated. -/
def AdvancesOn (active : Bool) (a b : Status) : Prop :=
  a.Advances b ∨ active = false ∧ a = deactivated ∧ b = completed

theorem advances_deactivated_iff {b : Status} : Advances deactivated b ↔ b = deactivated := by
  constructor
  · rintro ⟨⟩
    rfl
  · rintro rfl
    exact .same _

end Status

theorem nodeStatus_eq_completed_iff {active : Bool} {node : Id} {done resolved : IdSet}
    {incoming : List Arrow} :
    nodeStatus active node done incoming resolved = .completed ↔ active = true ∧ node ∈ done := by
  unfold nodeStatus
  cases active with
  | false => simp
  | true =>
    by_cases completed : node ∈ done
    · simp [completed]
    · simp only [completed, Bool.not_true, Bool.false_eq_true, if_false, and_false, iff_false]
      split <;> exact Status.noConfusion

section Growing

variable {active entry : Bool} {node : Id} {done done' resolved resolved' : IdSet}
  {incoming : List Arrow} (completed : ∀ n ∈ done, n ∈ done')
  (arrived : ∀ a ∈ incoming, a.id ∈ resolved → a.id ∈ resolved')
include completed arrived

theorem nodeStatus_advances :
    (nodeStatus active node done incoming resolved).Advances
      (nodeStatus active node done' incoming resolved') := by
  have stays : (incoming.any (·.id ∈ resolved) || isEntry incoming) = true →
      (incoming.any (·.id ∈ resolved') || isEntry incoming) = true := by
    simp only [Bool.or_eq_true, List.any_eq_true, decide_eq_true_eq]
    apply Or.imp_left
    rintro ⟨a, ha, found⟩
    exact ⟨a, ha, arrived a ha found⟩
  unfold nodeStatus
  generalize (incoming.any (·.id ∈ resolved) || isEntry incoming) = reached at stays
  generalize (incoming.any (·.id ∈ resolved') || isEntry incoming) = reached' at stays
  cases active with
  | false => exact .same _
  | true =>
    by_cases before : node ∈ done
    · simp only [before, completed node before, if_true]
      exact .same _
    · by_cases after : node ∈ done'
      · simp only [before, after, if_true, if_false]
        cases reached with
        | false => exact .through
        | true => exact .completes
      · simp only [before, after, if_false]
        cases reached with
        | true =>
          rw [stays rfl]
          exact .same _
        | false =>
          cases reached' with
          | false => exact .same _
          | true => exact .opens

/-- The status of a question advances with what a scope has solved, resolved and completed. The
status that it asks for is that of the node which the arrow leads into. -/
theorem questionStatus_advances {arrow : Arrow} {solved solved' : Bool} (own : arrow.target = node)
    (kept : solved = true → solved' = true) :
    Status.AdvancesOn active
      (questionStatus arrow solved active (nodeStatus active node done incoming resolved) entry done)
      (questionStatus arrow solved' active (nodeStatus active node done' incoming resolved') entry
        done') := by
  have status : (nodeStatus active node done incoming resolved).Advances
      (nodeStatus active node done' incoming resolved') := nodeStatus_advances completed arrived
  have finished : nodeStatus active node done' incoming resolved' = .completed → node ∈ done' :=
    fun status => (nodeStatus_eq_completed_iff.mp status).2
  generalize nodeStatus active node done incoming resolved = a at status
  generalize nodeStatus active node done' incoming resolved' = b at status finished
  have stays : (entry || arrow.start ∈ done || (arrow.isSelfLoop && a == .inProgress)) = true →
      (entry || arrow.start ∈ done' || (arrow.isSelfLoop && b == .inProgress)) = true := by
    simp only [Bool.or_eq_true, Bool.and_eq_true, decide_eq_true_eq, beq_iff_eq, Arrow.isSelfLoop]
    rintro ((entered | left) | ⟨loop, rfl⟩)
    · exact .inl (.inl entered)
    · exact .inl (.inr (completed _ left))
    · -- A self-loop whose node is not in progress any more starts at a completed node.
      cases status with
      | same => exact .inr ⟨loop, rfl⟩
      | completes => exact .inl (.inr (loop.trans own ▸ finished rfl))
  unfold questionStatus
  generalize (entry || arrow.start ∈ done || (arrow.isSelfLoop && a == .inProgress)) = opened at stays
  generalize (entry || arrow.start ∈ done' || (arrow.isSelfLoop && b == .inProgress)) = opened'
    at stays
  cases solved with
  | true =>
    rw [kept rfl]
    exact .inl (.same _)
  | false =>
    cases active with
    | false =>
      cases solved' with
      | false => exact .inl (.same _)
      | true => exact .inr ⟨rfl, rfl, rfl⟩
    | true =>
      apply Or.inl
      cases solved' with
      | true =>
        cases opened with
        | false => exact .through
        | true => exact .completes
      | false =>
        cases opened with
        | true =>
          rw [stays rfl]
          exact .same _
        | false =>
          cases opened' with
          | false => exact .same _
          | true => exact .opens

end Growing

structure QuestionView.Advances (active : Bool) (withdrawn : Id → Prop) (v w : QuestionView) :
    Prop where
  arrow : w.arrow = v.arrow
  question : w.question = v.question
  status : ¬ withdrawn v.question → v.status.AdvancesOn active w.status

structure RuleView.Advances (active : Bool) (withdrawn : Id → Prop) (v w : RuleView) : Prop where
  rule : w.rule = v.rule
  questions : List.Forall₂ (QuestionView.Advances active withdrawn) v.questions w.questions

/-- The view of a node, active or not, earlier and later: all statuses advance but those of
questions that were withdrawn. -/
structure NodeView.Advances (active : Bool) (withdrawn : Id → Prop) (v w : NodeView) : Prop where
  node : w.node = v.node
  status : v.status.Advances w.status
  rules : List.Forall₂ (RuleView.Advances active withdrawn) v.rules w.rules

namespace Tables

variable {t t' : Tables} {scope : Scope}

def Solves (t : Tables) (scope : Scope) (question : Id) (a : Row.Answer) : Prop :=
  a.question = question ∧ a.correct = some true ∧ t.visible scope a.member a.seat = true

theorem mem_solved {questions : List Id} {question : Id} :
    question ∈ t.solved questions scope ↔
      question ∈ questions ∧ ∃ a ∈ t.answers, t.Solves scope question a := by
  simp only [solved, IdSet.mem_ofList, List.mem_map, List.mem_filter, Bool.and_eq_true,
    List.contains_iff_mem, beq_iff_eq, Solves]
  constructor
  · rintro ⟨a, ⟨ha, ⟨asked, correct⟩, seen⟩, rfl⟩
    exact ⟨asked, a, ha, rfl, correct, seen⟩
  · rintro ⟨asked, a, ha, rfl, correct, seen⟩
    exact ⟨a, ⟨ha, ⟨asked, correct⟩, seen⟩, rfl⟩

namespace Gains

theorem mapView_advances (h : t.Gains t') (map : Id) (scope : Scope) :
    List.Forall₂ (fun v w => w.1 = v.1 ∧ v.2.Advances w.2) (t.mapView map scope)
      (t'.mapView map scope) := by
  have nodes : t'.nodesOf map = t.nodesOf map := by
    obtain ⟨_, _, _, _, rfl⟩ := h
    rfl
  have edges : t'.edgesOf map = t.edgesOf map := by
    obtain ⟨_, _, _, _, rfl⟩ := h
    rfl
  unfold mapView
  rw [nodes, edges, List.forall₂_map_left_iff, List.forall₂_map_right_iff, List.forall₂_same]
  intro n _
  refine ⟨rfl, nodeStatus_advances (fun i => h.mem_completedNodes) ?_⟩
  exact fun a _ => h.mem_resolvedArrows

theorem nodeView_advances (h : t.Gains t') {withdrawn : Id → Prop}
    (kept : ∀ question, ¬ withdrawn question → (∃ a ∈ t.answers, t.Solves scope question a) →
      ∃ a ∈ t'.answers, t'.Solves scope question a) (n : Row.Node) :
    (t.nodeView n scope).Advances n.active withdrawn (t'.nodeView n scope) := by
  have rules : t'.rulesFor n.id = t.rulesFor n.id := by
    obtain ⟨_, _, _, _, rfl⟩ := h
    rfl
  have edges : t'.edgesInto n.id = t.edgesInto n.id := by
    obtain ⟨_, _, _, _, rfl⟩ := h
    rfl
  have completed : ∀ i ∈ IdSet.ofList ((t.completedPairs n.map scope).map (·.1)),
      i ∈ IdSet.ofList ((t'.completedPairs n.map scope).map (·.1)) := by
    intro i hi
    obtain ⟨⟨node, rule⟩, pair, rfl⟩ := List.mem_map.mp (IdSet.mem_ofList.mp hi)
    exact IdSet.mem_ofList.mpr (List.mem_map_of_mem (h.mem_completedPairs pair))
  have arrived : ∀ arrows, ∀ i ∈ t.resolvedAmong arrows scope, i ∈ t'.resolvedAmong arrows scope := by
    intro arrows i hi
    rw [mem_resolvedAmong] at hi ⊢
    exact hi.imp_right h.resolved
  have solved : ∀ questions question, ¬ withdrawn question →
      question ∈ t.solved questions scope → question ∈ t'.solved questions scope := by
    intro questions question stays hq
    rw [mem_solved] at hq ⊢
    exact hq.imp_right (kept question stays)
  unfold nodeView
  rw [rules, edges]
  refine ⟨rfl, nodeStatus_advances completed fun a _ => arrived _ a.id, ?_⟩
  rw [List.forall₂_map_left_iff, List.forall₂_map_right_iff, List.forall₂_same]
  intro q _
  refine ⟨rfl, ?_⟩
  have own : List.Forall₂ (fun e e' => e' = e ∧ e.target = n.id)
      ((t.edgesInto n.id).filter (·.rule == q.id)) ((t.edgesInto n.id).filter (·.rule == q.id)) := by
    rw [List.forall₂_same]
    intro e he
    obtain ⟨into, -⟩ := List.mem_filter.mp he
    exact ⟨rfl, beq_iff_eq.mp (List.mem_filter.mp into).2⟩
  refine List.rel_filterMap ?_ own
  rintro _ e ⟨rfl, target⟩
  cases asked : e.question with
  | none =>
    simp only [asked, Option.map_none]
    exact .none
  | some question =>
    simp only [asked, Option.map_some]
    refine .some ⟨rfl, rfl, fun stays => ?_⟩
    apply questionStatus_advances completed (fun a _ => arrived _ a.id) target
    rw [decide_eq_true_eq, decide_eq_true_eq]
    exact solved _ question stays

end Gains

end Tables

/-- A call withdraws a question of a scope: it rejects the only correct answer to it that the scope
sees. -/
def Call.Withdraws (t : Tables) (scope : Scope) : Call → Id → Prop
  | submit .., _ => False
  | review _ _ answer r, question => r.correct = false ∧
      ∃ a ∈ t.answers, a.id = answer ∧ t.Solves scope question a ∧
        ∀ b ∈ t.answers, t.Solves scope question b → b = a

theorem Call.Writes.solves {call : Call} {t t' : Tables} {a : Row.Answer}
    (writes : call.Writes t a t') (distinct : (t.answers.map (·.id)).Nodup) {scope : Scope}
    {question : Id} (stays : ¬ call.Withdraws t scope question)
    (solved : ∃ b ∈ t.answers, t.Solves scope question b) :
    ∃ b ∈ t'.answers, t'.Solves scope question b := by
  obtain ⟨b, hb, solves⟩ := solved
  cases writes with
  | submit found made => exact ⟨b, List.mem_append_left _ hb, solves⟩
  | @review now reviewer answer r feedback a found =>
    have changed : ∀ c ∈ t.answers,
        (if c.id == answer then c.decided now reviewer r.correct feedback else c) ∈
          t.answers.map fun c =>
            if c.id == answer then c.decided now reviewer r.correct feedback else c :=
      fun c hc => List.mem_map_of_mem hc
    by_cases reviewed : b.id = answer
    · by_cases accepted : r.correct = true
      · refine ⟨_, changed b hb, ?_⟩
        rw [if_pos (beq_iff_eq.mpr reviewed), accepted]
        exact ⟨solves.1, rfl, solves.2.2⟩
      · -- Another answer solves the question, which the review leaves alone.
        have rejected : r.correct = false := Bool.eq_false_iff.mpr accepted
        obtain ⟨c, hc, other, differ⟩ : ∃ c ∈ t.answers, t.Solves scope question c ∧ c ≠ b := by
          by_contra none_other
          push Not at none_other
          exact stays ⟨rejected, b, hb, reviewed, solves, none_other⟩
        have apart : c.id ≠ answer := fun same =>
          differ (List.inj_on_of_nodup_map distinct hc hb (same.trans reviewed.symm))
        refine ⟨_, changed c hc, ?_⟩
        rw [if_neg (by simpa using apart)]
        exact other
    · refine ⟨_, changed b hb, ?_⟩
      rw [if_neg (by simpa using reviewed)]
      exact solves

section Calls

variable {s : Store} (call : Call)

theorem Call.solves (distinct : (s.tables.answers.map (·.id)).Nodup) {scope : Scope} {question : Id}
    (stays : ¬ call.Withdraws s.tables scope question)
    (solved : ∃ b ∈ s.tables.answers, s.tables.Solves scope question b) :
    ∃ b ∈ (call.perform s).tables.answers, (call.perform s).tables.Solves scope question b := by
  rcases call.does_or_fails s with ⟨acting, a, r, done⟩ | same
  · obtain ⟨t₁, writes, stored⟩ := done.stored
    rw [stored.tables]
    exact writes.solves distinct stays solved
  · rw [same]
    exact solved

/-- Statuses never go back. Whatever a call does, and also when it fails, the graph is the same, the
rows of progress that there were are there unchanged, and for every scope the statuses of all nodes
of a map, and all statuses in the view of a node, are the same as before or later ones, in the order
locked, in progress, completed. There are two exceptions, both of questions. A question on an
inactive node, deactivated before, is completed once it is solved. The status of a question is not
kept if the call rejects the only correct answer to it that the scope sees. -/
theorem Store.statuses_never_go_back (distinct : (s.tables.answers.map (·.id)).Nodup) :
    s.SameCourse (call.perform s) ∧
    s.tables.progresses <+: (call.perform s).tables.progresses ∧
    s.tables.histories <+: (call.perform s).tables.histories ∧
    ∀ scope : Scope,
      (∀ map, List.Forall₂ (fun v w => w.1 = v.1 ∧ v.2.Advances w.2) (s.tables.mapView map scope)
        ((call.perform s).tables.mapView map scope)) ∧
      ∀ n : Row.Node,
        (s.tables.nodeView n scope).Advances n.active (call.Withdraws s.tables scope)
          ((call.perform s).tables.nodeView n scope) ∧
        (n.active = false → ((call.perform s).tables.nodeView n scope).status = .deactivated) := by
  have gains := call.gains_perform s
  refine ⟨call.respects_perform stepwise_sameCourse s, gains.prefixes.1, gains.prefixes.2,
    fun scope => ⟨fun map => gains.mapView_advances map scope, fun n => ⟨?_, ?_⟩⟩⟩
  · apply gains.nodeView_advances
    exact fun question stays => call.solves distinct stays
  · intro inactive
    simp only [Tables.nodeView, nodeStatus, inactive, Bool.not_false, if_true]

end Calls

theorem Store.mapView_advances_after (s : Store) (calls : List Call) (map : Id) (scope : Scope) :
    List.Forall₂ (fun v w => w.1 = v.1 ∧ v.2.Advances w.2) (s.tables.mapView map scope)
      ((s.after calls).tables.mapView map scope) :=
  (s.gains_after calls).mapView_advances map scope

def dormant (active : Bool) : Store :=
  { lesson with
    tables := { lesson.tables with
      nodes := [⟨1, 1, "S", "", "", true, none, default⟩,
        ⟨2, 1, "T", "", "", active, none, default⟩] } }

def dormantNode (active : Bool) : Row.Node := ⟨2, 1, "T", "", "", active, none, default⟩

def dormantQuestions (active : Bool) (s : Store) : List QuestionView :=
  (s.tables.nodeView (dormantNode active) (.solo 1)).rules.flatMap (·.questions)

def dormantAnswer : Call := .submit default 1 1 ⟨none, [⟨"", ""⟩], none⟩

/-- Where node 2 is active, it is locked before the answer and completed after it. -/
theorem statuses_never_go_back_when_awake :
    ((dormant true).tables.answers.map (·.id)).Nodup ∧
      ((dormant true).tables.nodeView (dormantNode true) (.solo 1)).status = .locked ∧
      ((dormantAnswer.perform (dormant true)).tables.nodeView (dormantNode true) (.solo 1)).status =
        .completed ∧
      ((dormant true).tables.nodeView (dormantNode true) (.solo 1)).Advances true
        (dormantAnswer.Withdraws (dormant true).tables (.solo 1))
        ((dormantAnswer.perform (dormant true)).tables.nodeView (dormantNode true) (.solo 1)) := by
  have distinct : ((dormant true).tables.answers.map (·.id)).Nodup := by decide
  obtain ⟨-, -, -, advances⟩ := Store.statuses_never_go_back dormantAnswer distinct
  exact ⟨distinct, by cbv, by cbv, ((advances (.solo 1)).2 (dormantNode true)).1⟩

/-- Where it is not, its question is deactivated before the answer, which withdraws nothing, and
completed after it. -/
theorem solved_question_leaves_deactivated :
    (dormant false).Fresh ∧ dormantNode false ∈ (dormant false).tables.nodes ∧
      ¬ dormantAnswer.Withdraws (dormant false).tables (.solo 1) 1 ∧
      dormantQuestions false (dormant false) = [⟨1, 1, .deactivated⟩] ∧
      dormantQuestions false (dormantAnswer.perform (dormant false)) = [⟨1, 1, .completed⟩] ∧
      ¬ Status.Advances .deactivated .completed := by
  have fresh : (dormant false).Fresh :=
    ⟨by decide, ⟨by decide, by decide, by decide, by decide⟩, by decide, rfl, rfl⟩
  refine ⟨fresh, by decide, id, by cbv, by cbv, ?_⟩
  rw [Status.advances_deactivated_iff]
  exact Status.noConfusion

end LearningMap
