import LearningMap.Graph.Propagation
import LearningMap.Store.Query

/-!
# Completing nodes

Completion spreads over a map from some nodes and what it finds is stored. An arrow whose question
was answered correctly is resolved first; its start node seeds the completion then. A correct answer
seeds it only when it resolves the last open arrow of a rule, an accepted review always does.

Nothing here is undone on failure; whoever calls decides about that.
-/

namespace LearningMap

structure Completion where
  resolved : List Row.ArrowProgress
  completed : List Row.NodeHistory
  /-- Nodes among the completed ones that had been completed before, through other rules. -/
  already : IdSet
  activated : IdSet

namespace Completion

def empty : Completion := ⟨[], [], ∅, ∅⟩

def isEmpty (c : Completion) : Bool := c.resolved.isEmpty && c.completed.isEmpty

def completedNodes (c : Completion) : List Id := (c.completed.map (·.node)).eraseDups

end Completion

structure Resolution where
  /-- The row of the arrow, if it was not resolved before. -/
  created : Option Row.ArrowProgress
  completion : Completion

namespace Resolution

def empty : Resolution := ⟨none, .empty⟩

def resolvedCount (r : Resolution) : Nat :=
  r.created.toList.length + r.completion.resolved.length

end Resolution

def ArrowResolution.toRow (r : ArrowResolution) : Row.ArrowProgress :=
  ⟨0, r.map, r.arrow, r.member, r.seat, true, some r.time, ⟨r.time, r.time⟩⟩

def NodeCompletion.toRow (c : NodeCompletion) : Row.NodeHistory :=
  ⟨0, c.map, c.node, c.rule, c.member, c.seat, c.time, ⟨c.time, c.time⟩⟩

namespace Action

def storeResolved (rows : List ArrowResolution) : Action (List Row.ArrowProgress) :=
  insert .skip (rows.map (·.toRow))

def storeCompleted (rows : List NodeCompletion) : Action (List Row.NodeHistory) :=
  insert .skip (rows.map (·.toRow))

def storeResolution (now : Timestamp) (map arrow : Id) (scope : Scope) :
    Action (Option Row.ArrowProgress) := do
  pure (← storeResolved [⟨map, arrow, scope.member, scope.seat, now⟩]).head?

/-- The row of an arrow that a scope has resolved, made if there is none; whether it was made. -/
def findOrResolve (now : Timestamp) (map arrow : Id) (scope : Scope) :
    Action (Row.ArrowProgress × Bool) := do
  match ← query (·.resolution? arrow scope) with
  | some row => pure (row, false)
  | none =>
    match ← storeResolution now map arrow scope with
    | some row => pure (row, true)
    | none =>
      match ← query (·.resolution? arrow scope) with
      | some row => pure (row, false)
      | none => reject .rowNotFound

/-- Takes the lock of a scope. Operations run one after another, so the lock is always free. -/
def lock (scope : Scope) : Action Unit :=
  match scope.lockWord with
  | .ok _ => pure ()
  | .error operation => throw (.overflow operation)

/-- Spreads completion from nodes of one map and stores what it finds. -/
def completeNodes (now : Timestamp) (actor : Actor) (nodes : List Row.Node) :
    Action Completion := do
  match nodes with
  | [] => pure .empty
  | first :: _ =>
    let maps := (IdSet.ofList (nodes.map (·.map))).toList
    if 1 < maps.length then refuse (.seedsSpanMaps maps)
    else do
      let scope ← orRefuse .unresolvedActor actor.scope?
      lock scope
      let before ← query (·.snapshot first.map scope)
      let plan := (before.propagate (nodes.map (·.id)) scope now).2
      let resolved ← storeResolved plan.resolutions
      let completed ← storeCompleted plan.completions
      let already := (completed.map (·.node)).filter (· ∈ before.progress.nodes)
      pure ⟨resolved, completed, .ofList already, plan.activated⟩

def completeStart (now : Timestamp) (arrow : Row.Arrow) (scope : Scope) : Action Completion := do
  let start ← orRefuse (.notFound "Node" arrow.start) (← query (·.node? arrow.start))
  completeNodes now scope.toActor [start]

/-- Resolves the arrow of a correct answer. Completion spreads from its start node when the arrow
was open before and all live arrows of its rule are resolved now. -/
def resolveArrow (now : Timestamp) (arrow : Row.Arrow) (scope : Scope) : Action Resolution := do
  lock scope
  let (row, made) ← findOrResolve now arrow.map arrow.id scope
  if !made then pure .empty
  else do
    let siblings ← query (·.arrowsInto arrow.rule)
    let resolved ← query (·.resolvedAmong siblings scope)
    if !siblings.isEmpty && resolved.size == siblings.length then
      pure ⟨some row, ← completeStart now arrow scope⟩
    else pure ⟨some row, .empty⟩

/-- Resolves the arrow of an answer that a reviewer accepted. Completion always spreads from its
start node. -/
def acceptArrow (now : Timestamp) (arrow : Row.Arrow) (scope : Scope) : Action Resolution := do
  lock scope
  let (row, made) ← findOrResolve now arrow.map arrow.id scope
  let completion ← completeStart now arrow scope
  pure ⟨if made then some row else none, completion⟩

end Action

end LearningMap
