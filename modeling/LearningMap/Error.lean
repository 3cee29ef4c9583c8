import LearningMap.Id

/-!
# Why a request is refused

The causes of refusal, and the one text for each.
-/

namespace LearningMap

inductive Refusal where
  | notFound (entity : String) (id : Id)
  | validation (reason : String)
  | conflict (reason : String)
  | unauthorized (reason : String)
  | forbidden (reason : String)
  | prerequisitesIncomplete (names : List String)
  | seedsSpanMaps (maps : List Id)
  /-- The acting member, or half of the seat, is not known. -/
  | unresolvedActor
  | internal (reason : String)
  deriving DecidableEq

namespace Refusal

def message : Refusal → String
  | notFound entity id => s!"Entity not found: {entity} with id {id}"
  | validation reason => s!"Validation failed: {reason}"
  | conflict reason => s!"Conflict: {reason}"
  | unauthorized reason => s!"Unauthorized: {reason}"
  | forbidden reason => s!"Forbidden: {reason}"
  | prerequisitesIncomplete names =>
    "Node '" ++ ", ".intercalate names ++ "' must be completed before answering"
  | seedsSpanMaps maps =>
    "Seed nodes span multiple maps: [" ++ ", ".intercalate (maps.map toString) ++ "]"
  | unresolvedActor => "Actor identity is not resolved"
  | internal reason => s!"Internal error: {reason}"

end Refusal

end LearningMap
