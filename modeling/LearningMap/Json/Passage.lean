import LearningMap.Json.Draft

/-!
# Getting through a value

Some readers take a value of any kind and keep it, with all its texts and numbers. Such a reader
gives up at the first text or number that is none. Each list and object around it then closes if its
bracket is next. When the fault comes last in all of them, the reader stands behind the value after
all, and whoever can do without the value may go on from there.
-/

namespace LearningMap.Json

/-- Where a reader stands that was to keep a value. -/
inductive Passage where
  | kept
  | behind
  | within
  deriving DecidableEq

namespace Passage

def ofLeaf {α : Type} : Except Halt α → Passage
  | .ok _ => kept
  | .error .behind => behind
  | .error .within => within

/-- Getting through the rest of a list or object after one part of it. Nothing but a bracket can be
passed over after a fault. -/
def andRest (p : Passage) (last : Bool) (rest : Passage) : Passage :=
  match p with
  | kept => rest
  | behind => if last then behind else within
  | within => within

end Passage

/-- Getting through a draft that has no slips of the grammar. Lists and objects must not lie deeper
than `depth`, and the names of members have to be texts. -/
def Draft.passage : Nat → Draft → Passage
  | _, .null => .kept
  | _, .bool _ => .kept
  | _, .num n => .ofLeaf n
  | _, .str s => .ofLeaf s
  | 0, .arr _ _ => .within
  | 0, .obj _ _ => .within
  | depth + 1, .arr items _ => all depth items
  | depth + 1, .obj members _ => allMembers depth members
  | _, .broken => .within
where
  all (depth : Nat) : List Draft → Passage
    | [] => .kept
    | d :: ds => (passage depth d).andRest ds.isEmpty (all depth ds)
  allMembers (depth : Nat) : List (Option String × Draft) → Passage
    | [] => .kept
    | (none, _) :: _ => .within
    | (some _, d) :: ds => (passage depth d).andRest ds.isEmpty (allMembers depth ds)

end LearningMap.Json
