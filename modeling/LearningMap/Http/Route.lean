import LearningMap.Text

/-!
# Routes

A path leads to one of five routes. Four of them have a place for an identifier, which may hold any
characters but a slash, or none.
-/

namespace LearningMap

inductive Route where
  | health
  | submission (question : List Char)
  | review (answer : List Char)
  | map (map : List Char)
  | node (node : List Char)
  deriving DecidableEq

namespace Route

def ofPath? (path : List Char) : Option Route :=
  match (Text.pieces '/' path).map String.ofList with
  | ["", "health"] => some .health
  | ["", "api", "v1", "questions", id, "answers"] => some (.submission id.toList)
  | ["", "api", "v1", "admin", "answers", id, "feedback"] => some (.review id.toList)
  | ["", "api", "v1", "maps", id, "nodes"] => some (.map id.toList)
  | ["", "api", "v1", "nodes", id, "progress"] => some (.node id.toList)
  | _ => none

/-- The methods of a route. What can be read can also be read without its content. -/
def methods : Route → List String
  | health | map _ | node _ => ["GET", "HEAD"]
  | submission _ | review _ => ["POST"]

end Route

end LearningMap
