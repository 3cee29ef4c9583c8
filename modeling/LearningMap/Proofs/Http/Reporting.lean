import LearningMap.Proofs.Http.Serving
import LearningMap.Proofs.Service.Footprint
import LearningMap.Proofs.Service.View

/-!
# What is reported of a call

The response to a call counts the rows of resolved arrows that it added and lists the completed
nodes of the rows that it added, and its events announce those rows one by one, in the order in
which they were stored, after what they tell of the answer itself.
-/

namespace LearningMap

namespace Event

/-- What an event is and what it is about. -/
def subject (e : Event) : String × Option String × Option Id := (e.name, e.sourceKind, e.source)

def FromScope (e : Event) (scope : Scope) : Prop :=
  e.member = some scope.member ∧ e.play = scope.play

/-- An event announces a row of a completed node. -/
structure Announces (e : Event) (h : Row.NodeHistory) : Prop where
  name : e.name = "node.completed"
  map : e.map = h.map
  sourceKind : e.sourceKind = some "node"
  source : e.source = some h.node
  rule : e.payload.member? "node_complete_rule_id" = some (.int h.rule)

end Event

def Row.Answer.announced (a : Row.Answer) : List (String × Option String × Option Id) :=
  ("answer.submitted", some "user_question_answer", some a.id) ::
    match Verdict.ofCorrect a.correct with
    | .pending => [("answer.pending_review", some "user_question_answer", some a.id)]
    | .success => [("question.solved", some "question", some a.question)]
    | .failed => []

/-- An outcome accounts for the rows of resolved arrows and of completed nodes that a scope has
added. Its first events tell of an answer. -/
structure Outcome.Accounts (o : Outcome) (scope : Scope) (ps : List Row.ArrowProgress)
    (hs : List Row.NodeHistory) (front : List (String × Option String × Option Id)) : Prop where
  count : o.data.member? "new_arrow_progress_count" = some (.int ps.length)
  nodes : o.data.member? "completed_node_ids" = some (.list .int (hs.map (·.node)).eraseDups)
  events : ∃ first later, o.events = first ++ later ∧ first.map (·.subject) = front ∧
    List.Forall₂ Event.Announces later hs
  scope : ∀ e ∈ o.events, e.FromScope scope

namespace Completion

variable {c : Completion} {scope : Scope}

theorem announces_events (c : Completion) (scope : Scope) :
    List.Forall₂ Event.Announces (c.events scope) c.completed := by
  unfold events
  rw [List.forall₂_map_left_iff, List.forall₂_same]
  exact fun h _ => ⟨rfl, rfl, rfl, rfl, rfl⟩

theorem fromScope_of_mem_events {e : Event} (he : e ∈ c.events scope) : e.FromScope scope := by
  obtain ⟨h, -, rfl⟩ := List.mem_map.mp he
  exact ⟨rfl, rfl⟩

end Completion

namespace Row.Answer

variable {a : Row.Answer} {verdict : Verdict} {scope : Scope}

theorem subject_submissionEvents (checked : verdict = .ofCorrect a.correct) :
    (a.submissionEvents verdict scope).map (·.subject) = a.announced := by
  unfold announced
  rw [← checked]
  cases verdict <;> rfl

theorem fromScope_of_mem_submissionEvents {e : Event} (he : e ∈ a.submissionEvents verdict scope) :
    e.FromScope scope := by
  rcases List.mem_cons.mp he with rfl | he
  · exact ⟨rfl, rfl⟩
  · cases verdict with
    | failed => cases he
    | success =>
      rw [List.mem_singleton.mp he]
      exact ⟨rfl, rfl⟩
    | pending =>
      rw [List.mem_singleton.mp he]
      exact ⟨rfl, rfl⟩

end Row.Answer

namespace Call

variable {s s' : Store} {now : Timestamp} {o : Outcome}

theorem yields_run_submit {member question : Id} {sub : Submission}
    (done : (submit now member question sub).run.Yields s o s') :
    ∃ p, (Action.submit now member question sub).Yields s p s' ∧ o = ⟨201, p.toJson, p.events⟩ := by
  obtain ⟨p, s₁, submitted, finished⟩ := Action.yields_bind.mp done
  obtain ⟨rfl, rfl⟩ := Action.yields_pure.mp finished
  exact ⟨p, submitted, rfl⟩

theorem yields_run_review {reviewer answer : Id} {r : Review}
    (done : (review now reviewer answer r).run.Yields s o s') :
    ∃ p, (Action.review now reviewer answer r).Yields s p s' ∧ o = ⟨200, p.toJson, p.events⟩ := by
  obtain ⟨p, s₁, reviewed, finished⟩ := Action.yields_bind.mp done
  obtain ⟨rfl, rfl⟩ := Action.yields_pure.mp finished
  exact ⟨p, reviewed, rfl⟩

end Call

theorem SubmissionOutcome.accounts {p : SubmissionOutcome}
    (checked : p.verdict = .ofCorrect p.answer.correct) :
    Outcome.Accounts ⟨201, p.toJson, p.events⟩ p.scope p.resolution.progresses
      p.resolution.completion.completed p.answer.announced where
  count := by
    rw [← Resolution.resolvedCount_eq]
    rfl
  nodes := rfl
  events := ⟨_, _, rfl, Row.Answer.subject_submissionEvents checked,
    p.resolution.completion.announces_events _⟩
  scope e he := by
    rcases List.mem_append.mp he with first | later
    · exact Row.Answer.fromScope_of_mem_submissionEvents first
    · exact Completion.fromScope_of_mem_events later

theorem ReviewOutcome.accounts (p : ReviewOutcome) :
    Outcome.Accounts ⟨200, p.toJson, p.events⟩ p.scope p.resolution.progresses
      p.resolution.completion.completed
      [("answer.reviewed", some "user_question_answer", some p.answer.id)] where
  count := by
    rw [← Resolution.resolvedCount_eq]
    rfl
  nodes := rfl
  events := ⟨[_], _, rfl, rfl, p.resolution.completion.announces_events _⟩
  scope e he := by
    rcases List.mem_cons.mp he with rfl | later
    · exact ⟨rfl, rfl⟩
    · exact Completion.fromScope_of_mem_events later

/-- The response and the events of a call that succeeds account exactly for what was stored. The
count is that of the rows of resolved arrows that were added, the nodes are those of the rows of
completed nodes that were added, each once and in order, and after the events that tell of the
answer there is one for each of these rows. All events carry the scope that the call acts in, and a
server sends this response and publishes these events. -/
theorem Call.reports_what_it_stored {s s' : Store} {o : Outcome} :
    (∀ {now member question sub}, (submit now member question sub).run.Yields s o s' →
      ∃ scope ps hs a files, (submit now member question sub).ActsIn s scope ∧
        s'.tables = { s.tables.book ps hs with
          answers := s.tables.answers ++ [a]
          answerFiles := s.tables.answerFiles ++ files } ∧
        o.data.member? "status" = some (.str (Verdict.ofCorrect a.correct).name) ∧
        o.Accounts scope ps hs a.announced) ∧
    (∀ {now reviewer answer r}, (review now reviewer answer r).run.Yields s o s' →
      ∃ scope ps hs answers, (review now reviewer answer r).ActsIn s scope ∧
        s'.tables = { s.tables.book ps hs with answers } ∧
        o.Accounts scope ps hs
          [("answer.reviewed", some "user_question_answer", some answer)]) ∧
    ∀ {call : Call}, call.run.Yields s o s' → ∀ v : Server, v.store = some s →
      v.perform call.time call.command = (.of o.status (.json (envelope o.data)),
        { v with store := some s', bus := v.bus.publishAll o.events }) := by
  refine ⟨?submission, ?review, ?served⟩
  case submission =>
    intro now member question sub done
    obtain ⟨p, submitted, rfl⟩ := yields_run_submit done
    obtain ⟨acting, -, checked, stored⟩ := Action.stored_submit submitted
    refine ⟨p.scope, _, _, p.answer, p.files, acting, stored.tables, ?_, p.accounts checked⟩
    rw [← checked]
    rfl
  case review =>
    intro now reviewer answer r done
    obtain ⟨p, reviewed, rfl⟩ := yields_run_review done
    obtain ⟨acting, a, ha, -, change, kept, changed, stored⟩ := Action.stored_review reviewed
    have same_id : p.answer.id = answer := by
      rw [changed, (kept a).1]
      exact (Tables.mem_of_answer? ha).2
    exact ⟨p.scope, _, _, _, acting, stored.tables, same_id ▸ p.accounts⟩
  case served =>
    intro call done v stored
    exact Server.perform_of_yields stored done

/-- A lesson whose question waits for a review of each answer. -/
def exam : Store :=
  { lesson with
    tables := { lesson.tables with
      questions := [⟨1, 1, "Q", "", ["file"], "manual", false, none, none, none, default⟩] } }

def examAnswer : Call := .submit default 1 1 ⟨none, [⟨"", ""⟩], some 1⟩

def examReview : Call := .review default 2 6 ⟨true, none⟩

def examServer : Server := ⟨"secret", ⟨[]⟩, some exam, ⟨1024, [], 0, [], false⟩⟩

/-- The answer waits for a review and completes nothing. The review completes node 2 for the seat of
member 1, and a server that performs both publishes so. -/
theorem reports_what_it_stored_in_exam :
    (∃ o s', examAnswer.run.Yields exam o s' ∧
      o.events.map (·.name) = ["answer.submitted", "answer.pending_review"] ∧
      ∃ scope ps hs, ∃ a : Row.Answer, examAnswer.ActsIn exam scope ∧
        o.Accounts scope ps hs a.announced) ∧
    ∃ o s', examReview.run.Yields (exam.after [examAnswer]) o s' ∧
      (o.events.map (·.name), o.data.member? "completed_node_ids") =
        (["answer.reviewed", "node.completed"], some (.list .int [2])) ∧
      (∃ scope ps hs, examReview.ActsIn (exam.after [examAnswer]) scope ∧
        o.Accounts scope ps hs [("answer.reviewed", some "user_question_answer", some 6)]) ∧
      ((examServer.performAll [examAnswer]).perform default examReview.command).2.bus =
        (examServer.performAll [examAnswer]).bus.publishAll o.events := by
  have answered : (examAnswer.run exam).1.map (fun o => o.events.map (·.name)) =
      .ok ["answer.submitted", "answer.pending_review"] := by cbv
  have reviewed : (examReview.run (exam.after [examAnswer])).1.map
      (fun o => (o.events.map (·.name), o.data.member? "completed_node_ids")) =
        .ok (["answer.reviewed", "node.completed"], some (.list .int [2])) := by cbv
  obtain ⟨o, submission, names⟩ := Action.exists_yields_of_map answered
  obtain ⟨o', review, names'⟩ := Action.exists_yields_of_map reviewed
  obtain ⟨scope, ps, hs, a, -, acting, -, -, accounts⟩ :=
    Call.reports_what_it_stored.1 submission
  obtain ⟨scope', ps', hs', -, acting', -, accounts'⟩ := Call.reports_what_it_stored.2.1 review
  have stored : (examServer.performAll [examAnswer]).store = some (exam.after [examAnswer]) := by
    rw [Server.performAll_eq rfl]
  have performed := Call.reports_what_it_stored.2.2 review _ stored
  exact ⟨⟨o, _, submission, names, scope, ps, hs, a, acting, accounts⟩, o', _, review, names',
    ⟨scope', ps', hs', acting', accounts'⟩, congrArg (fun p => p.2.bus) performed⟩

end LearningMap
