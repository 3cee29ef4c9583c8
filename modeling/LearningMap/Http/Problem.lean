import LearningMap.Failure
import LearningMap.Json.Basic

/-!
# How a failure is told to a client

A failure becomes a status, a code and a text. Clients are told what they can do something about; of
a fault inside they learn only that there was one.
-/

namespace LearningMap

structure Problem where
  status : Nat
  code : String
  text : String
  deriving DecidableEq

namespace Problem

def hidden : Problem := ⟨500, "INTERNAL_ERROR", "An internal error occurred"⟩

def ofRefusal : Refusal → Problem
  | .notFound entity id => ⟨404, "NOT_FOUND", s!"{entity} with id {id} not found"⟩
  | .validation reason => ⟨400, "VALIDATION_ERROR", reason⟩
  | .seedsSpanMaps maps => ⟨400, "VALIDATION_ERROR", (Refusal.seedsSpanMaps maps).message⟩
  | .conflict reason => ⟨409, "CONFLICT", reason⟩
  | .unauthorized reason => ⟨401, "UNAUTHORIZED", reason⟩
  | .unresolvedActor => ⟨401, "UNAUTHORIZED", Refusal.unresolvedActor.message⟩
  | .forbidden reason => ⟨403, "FORBIDDEN", reason⟩
  | .prerequisitesIncomplete names =>
    ⟨403, "FORBIDDEN", (Refusal.prerequisitesIncomplete names).message⟩
  | .internal _ => hidden

/-- The problem of a fault of the database. A value given twice is told only of the constraints
whose names say that they are about values: those start with `uq_`. -/
def ofDatabase : DatabaseFault → Problem
  | .rowNotFound => ⟨404, "NOT_FOUND", "Resource not found"⟩
  | .rejected _ code constraint =>
    let name := constraint.getD "unknown"
    if code = some DatabaseFault.duplicateCode && name.startsWith "uq_" then
      ⟨409, "CONFLICT", s!"Duplicate value violates unique constraint: {name}"⟩
    else hidden
  | _ => hidden

def ofFailure : Failure → Problem
  | .refused cause => ofRefusal cause
  | .database fault => ofDatabase fault
  | .badRequest reason => ⟨400, "BAD_REQUEST", reason⟩
  | .internal _ => hidden
  | .overflow _ => hidden

def body (p : Problem) : Json := .obj [("error", .str p.text), ("code", .str p.code)]

end Problem

end LearningMap
