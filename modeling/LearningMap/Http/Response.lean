import LearningMap.Http.Problem
import LearningMap.Http.Request

/-!
# Responses

A response has a status, headers and content. A value is sent as JSON, words are sent as plain text.
-/

namespace LearningMap

inductive Content where
  | empty
  | json (value : Json)
  | text (words : String)

def Content.headers : Content → Headers
  | empty => []
  | json _ => [("content-type", "application/json")]
  | text _ => [("content-type", "text/plain; charset=utf-8")]

structure Response where
  status : Nat
  headers : Headers
  content : Content

namespace Response

def of (status : Nat) (content : Content) : Response := ⟨status, content.headers, content⟩

def bare (status : Nat) : Response := .of status .empty

def ofProblem (p : Problem) : Response := .of p.status (.json p.body)

/-- A response that tells a failure. Of an overflow it tells in words only that there was one. -/
def ofFailure (f : Failure) : Response :=
  match f with
  | .overflow _ => .of 500 (.text "Service panicked")
  | f => ofProblem (.ofFailure f)

def withHeaders (r : Response) (headers : Headers) : Response :=
  { r with headers := r.headers ++ headers }

/-- The response to a request for the headers only. -/
def withoutContent (r : Response) : Response := { r with content := .empty }

end Response

end LearningMap
