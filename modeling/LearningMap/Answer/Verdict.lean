import LearningMap.Answer.Strategy
import LearningMap.Error

/-!
# The verdict on a submission

What a question requires of a submission, whether the submission is correct, and what is told to the
member by default.
-/

namespace LearningMap

structure QuestionRules where
  /-- Every answer is correct. -/
  bypass : Bool
  types : List QuestionType
  strategy : Strategy
  deriving DecidableEq

inductive Verdict where
  | success
  | failed
  | pending
  deriving DecidableEq

namespace Verdict

def name : Verdict → String
  | success => "success"
  | failed => "failed"
  | pending => "pending"

def ofName? : String → Option Verdict
  | "success" => some success
  | "failed" => some failed
  | "pending" => some pending
  | _ => none

@[simp] theorem ofName?_name (v : Verdict) : ofName? v.name = some v := by
  cases v <;> rfl

def ofCorrect : Option Bool → Verdict
  | some true => success
  | some false => failed
  | none => pending

@[simp] theorem ofCorrect_eq_success {correct : Option Bool} :
    ofCorrect correct = success ↔ correct = some true := by
  rcases correct with _ | _ | _ <;> simp [ofCorrect]

@[simp] theorem ofCorrect_eq_failed {correct : Option Bool} :
    ofCorrect correct = failed ↔ correct = some false := by
  rcases correct with _ | _ | _ <;> simp [ofCorrect]

@[simp] theorem ofCorrect_eq_pending {correct : Option Bool} :
    ofCorrect correct = pending ↔ correct = none := by
  rcases correct with _ | _ | _ <;> simp [ofCorrect]

def feedback (onSuccess onFailure : Option String) : Verdict → Option String
  | success => onSuccess
  | failed => onFailure
  | pending => none

end Verdict

namespace QuestionRules

/-- Reads the columns of a question. Its types are read before its strategy. -/
def ofColumns (bypass : Bool) (types : List String) (strategy : String) :
    Except Refusal QuestionRules := do
  let types ← (types.mapM QuestionType.ofName).mapError Refusal.internal
  let strategy ← (Strategy.ofName strategy).mapError Refusal.internal
  pure ⟨bypass, types, strategy⟩

def hasType (r : QuestionRules) (t : QuestionType) : Bool := r.types.contains t

/-- Whether a submission is correct. With bypass it always is. Without the text type a reviewer
decides. An empty text is wrong. Without stored answers a reviewer decides, else the strategy. -/
def check (r : QuestionRules) (submitted : Option String) (answers : List String) : Option Bool :=
  if r.bypass then some true
  else if !r.hasType .text then none
  else
    match submitted with
    | none => some false
    | some s =>
      if s.isEmpty then some false
      else if answers.isEmpty then none
      else r.strategy.check s answers

def isBlank (s : String) : Bool := s.toList.all Unicode.whiteSpace.contains

/-- A submission has to carry what the types of the question require: a text that is not blank, a
file. -/
def require (r : QuestionRules) (answer : Option String) (files : Nat) : Except Refusal Unit :=
  if r.hasType .text && answer.all isBlank then
    .error (.validation "answer is required for text questions")
  else if r.hasType .file && files == 0 then
    .error (.validation "at least one file is required for file questions")
  else .ok ()

end QuestionRules

end LearningMap
