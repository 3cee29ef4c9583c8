import LearningMap.Graph.Snapshot

/-!
# Status of nodes and questions

The status of a node is never stored. It follows from the node's active flag, from the nodes that
the scope has completed and from the arrows into the node that it has resolved.
-/

namespace LearningMap

inductive Status where
  | locked
  | inProgress
  | completed
  | deactivated
  deriving DecidableEq

namespace Status

def name : Status → String
  | locked => "locked"
  | inProgress => "in_progress"
  | completed => "completed"
  | deactivated => "deactivated"

def ofName? : String → Option Status
  | "locked" => some locked
  | "in_progress" => some inProgress
  | "completed" => some completed
  | "deactivated" => some deactivated
  | _ => none

@[simp] theorem ofName?_name (s : Status) : ofName? s.name = some s := by
  cases s <;> rfl

end Status

/-- The arrows that lead into each node, in the order given; self-loops are kept. -/
def incomingArrows (arrows : List Arrow) : IdMap (List Arrow) :=
  arrows.foldl (fun m a => m.alter a.target fun as => some (as.getD [] ++ [a])) ∅

/-- A node whose incoming arrows are all self-loops is where a map can be entered. -/
def isEntry (incoming : List Arrow) : Bool := incoming.all (·.isSelfLoop)

/-- The status of a node, from the arrows into it. It opens once one of them is resolved; an entry
node is open from the start. -/
def nodeStatus (active : Bool) (node : Id) (done : IdSet) (incoming : List Arrow)
    (resolved : IdSet) : Status :=
  if !active then .deactivated
  else if node ∈ done then .completed
  else if incoming.any (·.id ∈ resolved) || isEntry incoming then .inProgress
  else .locked

/-- The status of the question on an arrow into a node. A solved question stays completed on a
deactivated node. Otherwise it is open on an entry node, once the arrow's start node is completed,
or on a self-loop of a node in progress. -/
def questionStatus (arrow : Arrow) (solved active : Bool) (status : Status) (entry : Bool)
    (done : IdSet) : Status :=
  if solved then .completed
  else if !active then .deactivated
  else if entry || arrow.start ∈ done || (arrow.isSelfLoop && status == .inProgress) then
    .inProgress
  else .locked

structure RuleProgress where
  completed : Nat
  total : Nat
  /-- Whole percent, rounded down; zero for a rule without arrows. -/
  percentage : Nat
  deriving DecidableEq

def ruleProgress (arrows : IdSet) (resolved : IdSet) : RuleProgress :=
  let total := arrows.size
  let completed := arrows.toList.countP (· ∈ resolved)
  ⟨completed, total, completed * 100 / total⟩

end LearningMap
