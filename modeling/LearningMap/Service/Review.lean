import LearningMap.Service.Submission

/-!
# Reviewing answers

A reviewer accepts or rejects an answer, whatever its verdict was before. An accepted answer
resolves the arrow of its question for the scope that the answer was submitted in. Everything is
undone when anything fails.
-/

namespace LearningMap

structure Review where
  correct : Bool
  feedback : Option String
  deriving DecidableEq

structure ReviewOutcome where
  answer : Row.Answer
  scope : Scope
  resolution : Resolution

namespace ReviewOutcome

def verdict (o : ReviewOutcome) : Verdict := .ofCorrect o.answer.correct

def events (o : ReviewOutcome) : List Event :=
  o.answer.reviewEvent o.scope :: o.resolution.completion.events o.scope

end ReviewOutcome

namespace Action

def answerScope (a : Row.Answer) : Action Scope := do
  match a.seat with
  | none => pure (.solo a.member)
  | some id =>
    let found ← orRefuse (.notFound "MapPlayMember" id) (← query (·.seating? id))
    pure (.seated a.member found.seat.id found.seat.play)

def storeReview (now : Timestamp) (answer : Id) (correct : Bool) (feedback : Option String)
    (reviewer : Id) : Action (Option Row.Answer) := do
  checkTexts feedback.toList
  update answer fun a : Row.Answer =>
    { a with
      correct := some correct
      feedback
      reviewer := some reviewer
      reviewedAt := some now
      stamps := { a.stamps with updated := now } }

/-- Reviews an answer. Without feedback of its own, a review stores the default feedback of the
question. -/
def review (now : Timestamp) (reviewer answer : Id) (r : Review) : Action ReviewOutcome :=
  atomic do
    let found ← orRefuse (.notFound "UserQuestionAnswer" answer) (← query (·.answer? answer))
    let question ← query (·.question? found.question)
    let default := question.bind fun q =>
      (Verdict.ofCorrect (some r.correct)).feedback q.onSuccess q.onFailure
    let stored ← storeReview now answer r.correct (r.feedback <|> default) reviewer
    let a ← orRefuse (.notFound "UserQuestionAnswer" answer) stored
    let scope ← answerScope a
    let arrow ← query (·.arrowOf? a.question)
    let resolution ← match arrow, a.correct with
      | some arrow, some true => acceptArrow now arrow scope
      | _, _ => pure .empty
    pure ⟨a, scope, resolution⟩

end Action

end LearningMap
