import LearningMap.Answer.Verdict
import LearningMap.Event
import LearningMap.Service.Completion

/-!
# What is announced

The events of submitted answers, of reviews, and of completed nodes. They are made from stored rows.
-/

namespace LearningMap

namespace Row.Answer

def event (a : Row.Answer) (name : String) (scope : Scope) : Event :=
  ((Event.new name a.map).withActor scope).withSource "user_question_answer" a.id

/-- The events of a submission: that there is one, and what follows from its verdict. -/
def submissionEvents (a : Row.Answer) (verdict : Verdict) (scope : Scope) : List Event :=
  let question : String × Json := ("question_id", .int a.question)
  let submitted := (a.event "answer.submitted" scope).withPayload
    (.obj [question, ("status", .str verdict.name)])
  submitted :: match verdict with
    | .pending => [(a.event "answer.pending_review" scope).withPayload (.obj [question])]
    | .success =>
      [(((Event.new "question.solved" a.map).withActor scope).withSource "question"
        a.question).withPayload (.obj [("user_question_answer_id", .int a.id)])]
    | .failed => []

def reviewEvent (a : Row.Answer) (scope : Scope) : Event :=
  (a.event "answer.reviewed" scope).withPayload
    (.obj [("question_id", .int a.question), ("is_correct", .opt .bool a.correct),
      ("reviewed_by", .opt .int a.reviewer)])

end Row.Answer

/-- One event for each row of a completed node; it tells whether the node had been completed
before. -/
def Completion.events (c : Completion) (scope : Scope) : List Event :=
  c.completed.map fun h =>
    (((Event.new "node.completed" h.map).withActor scope).withSource "node" h.node).withPayload
      (.obj [("node_complete_rule_id", .int h.rule),
        ("already_completed", .bool (h.node ∈ c.already))])

end LearningMap
