import LearningMap.Graph.Prerequisites
import LearningMap.Service.Announcement

/-!
# Submitting answers

A member submits an answer to a question, alone or from a seat. The seat and the prerequisites are
checked before anything that the answer says; then the answer is checked and stored, and a correct
one resolves the arrow of its question. What is stored is undone when anything fails.
-/

namespace LearningMap

structure FileReference where
  name : String
  file : String
  deriving DecidableEq

structure Submission where
  answer : Option String := none
  files : List FileReference := []
  seat : Option Id := none
  deriving DecidableEq

structure SubmissionOutcome where
  answer : Row.Answer
  files : List Row.AnswerFile
  verdict : Verdict
  scope : Scope
  resolution : Resolution

def SubmissionOutcome.events (o : SubmissionOutcome) : List Event :=
  o.answer.submissionEvents o.verdict o.scope ++ o.resolution.completion.events o.scope

namespace Action

/-- The scope in which a member acts on a map. A seat has to be the member's own, active, and in a
play of that map. -/
def resolveScope (member map : Id) (seat : Option Id) : Action Scope := do
  match seat with
  | none => pure (.solo member)
  | some id =>
    let found ← orRefuse (.notFound "MapPlayMember" id) (← query (·.seating? id))
    if found.seat.member ≠ member then refuse (.forbidden "Seat belongs to another member")
    else if found.seat.deactivated then refuse (.forbidden "Seat is deactivated")
    else if found.map ≠ map then refuse (.forbidden "Seat belongs to another map")
    else pure (.seated member found.seat.id found.seat.play)

/-- The nodes that have to be completed before the arrow of a question can be answered. -/
def missingFor (t : Tables) (arrow : Row.Arrow) (scope : Scope) : IdSet :=
  missingPrerequisites arrow.start ((t.edgesInto arrow.start).map (·.toArrow))
    (t.completedNodes arrow.map scope)

/-- Refuses to go on while nodes are missing that lead into the start node of an arrow. A question
without an arrow has no such nodes. -/
def checkPrerequisites (arrow : Option Row.Arrow) (scope : Scope) : Action Unit := do
  match arrow with
  | none => pure ()
  | some arrow =>
    let missing ← query (missingFor · arrow scope)
    if missing.isEmpty then pure ()
    else do
      let nodes ← query (·.nodesAmong missing.toList)
      refuse (.prerequisitesIncomplete (nodes.map (·.name)))

def orFail {α : Type} : Except Refusal α → Action α
  | .ok a => pure a
  | .error cause => refuse cause

/-- Stores an answer. It counts as reviewed at once when there is nothing to review. -/
def storeAnswer (now : Timestamp) (map question member : Id) (seat : Option Id) (answer : String)
    (correct : Option Bool) (feedback : Option String) : Action Row.Answer := do
  checkTexts (answer :: feedback.toList)
  insertOne ⟨0, map, question, member, seat, answer, correct, feedback, none,
    if correct.isSome then some now else none, ⟨now, now⟩⟩

def storeFiles (now : Timestamp) (answer : Id) (files : List FileReference) :
    Action (List Row.AnswerFile) := do
  checkTexts (files.flatMap fun f => [f.name, f.file])
  insert .fail (files.map fun f => ⟨0, answer, f.name, f.file, ⟨now, now⟩⟩)

def submit (now : Timestamp) (member question : Id) (s : Submission) :
    Action SubmissionOutcome := do
  let q ← orRefuse (.notFound "Question" question) (← query (·.question? question))
  let rules ← orFail (QuestionRules.ofColumns q.bypass q.types q.strategy)
  let scope ← resolveScope member q.map s.seat
  let arrow ← query (·.arrowOf? q.id)
  checkPrerequisites arrow scope
  orFail (rules.require s.answer s.files.length)
  let accepted ← query (·.acceptedFor q.id)
  let correct := rules.check s.answer accepted
  let verdict := Verdict.ofCorrect correct
  atomic do
    let answer ← storeAnswer now q.map q.id member scope.seat (s.answer.getD "") correct
      (verdict.feedback q.onSuccess q.onFailure)
    let files ← storeFiles now answer.id s.files
    let resolution ← match arrow, correct with
      | some arrow, some true => resolveArrow now arrow scope
      | _, _ => pure .empty
    pure ⟨answer, files, verdict, scope, resolution⟩

end Action

end LearningMap
