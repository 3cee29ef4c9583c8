import LearningMap.Graph.Status
import LearningMap.Service.Submission

/-!
# Views of progress

A map shows all its live nodes with their status. A node shows its status, and for each of its live
rules how far it is resolved and which of its questions can be answered.
-/

namespace LearningMap

structure QuestionView where
  arrow : Id
  question : Id
  status : Status
  deriving DecidableEq

structure RuleView where
  rule : Id
  name : String
  /-- Whether the node was completed through this rule. -/
  completed : Bool
  progress : RuleProgress
  questions : List QuestionView
  deriving DecidableEq

structure NodeView where
  node : Id
  status : Status
  rules : List RuleView
  deriving DecidableEq

namespace Tables

/-- The live nodes of a map with their status for a scope. -/
def mapView (t : Tables) (map : Id) (scope : Scope) : List (Row.Node × Status) :=
  let done := t.completedNodes map scope
  let resolved := t.resolvedArrows map scope
  let incoming := incomingArrows ((t.edgesOf map).map (·.toArrow))
  (t.nodesOf map).map fun n =>
    (n, nodeStatus n.active n.id done (incoming.getD n.id []) resolved)

def nodeView (t : Tables) (n : Row.Node) (scope : Scope) : NodeView :=
  let edges := t.edgesInto n.id
  let incoming := edges.map (·.toArrow)
  let solved := t.solved (edges.filterMap (·.question)) scope
  let resolved := t.resolvedAmong (incoming.map (·.id)) scope
  let pairs := t.completedPairs n.map scope
  let done := IdSet.ofList (pairs.map (·.1))
  let status := nodeStatus n.active n.id done incoming resolved
  let rules := (t.rulesFor n.id).map fun r =>
    let own := edges.filter (·.rule == r.id)
    { rule := r.id
      name := r.name
      completed := pairs.contains (n.id, r.id)
      progress := ruleProgress (.ofList (own.map (·.id))) resolved
      questions := own.filterMap fun e => e.question.map fun q =>
        { arrow := e.id
          question := q
          status :=
            questionStatus e.toArrow (q ∈ solved) n.active status (isEntry incoming) done } }
  ⟨n.id, status, rules⟩

end Tables

namespace Action

def viewMap (member map : Id) (seat : Option Id) : Action (List (Row.Node × Status)) := do
  let m ← orRefuse (.notFound "Map" map) (← query (·.map? map))
  let scope ← resolveScope member m.id seat
  query (·.mapView m.id scope)

def viewNode (member node : Id) (seat : Option Id) : Action NodeView := do
  let n ← orRefuse (.notFound "Node" node) (← query (·.node? node))
  let scope ← resolveScope member n.map seat
  query (·.nodeView n scope)

end Action

end LearningMap
