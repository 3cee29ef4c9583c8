import LearningMap.Json.Number

/-!
# JSON values

A value is null, a truth value, a number, a text, a list or an object.
-/

namespace LearningMap

inductive Json where
  | null
  | bool (b : Bool)
  | num (n : Json.Number)
  | str (s : String)
  | arr (items : List Json)
  | obj (members : List (String × Json))
  deriving Inhabited

namespace Json

def int (n : Int) : Json := .num (.whole n)

def opt {α : Type} (f : α → Json) : Option α → Json
  | some a => f a
  | none => .null

def list {α : Type} (f : α → Json) (as : List α) : Json := .arr (as.map f)

def member? (name : String) : Json → Option Json
  | .obj members => (members.reverse.find? (·.1 == name)).map (·.2)
  | _ => none

/-- The last member under a name; null when there is none. -/
def get (j : Json) (name : String) : Json := (j.member? name).getD .null

end Json

end LearningMap
