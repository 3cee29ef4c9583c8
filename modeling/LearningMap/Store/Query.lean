import LearningMap.Graph.Snapshot
import LearningMap.Scope
import LearningMap.Store.Basic

/-!
# What is asked of the store

Rows that are no longer live are left out, where a table has such rows. Lists come in the order of
identifiers, whatever order the rows are stored in.

A row of progress, and an answer, is visible to a scope: members seated in a play see what any seat
of that play did, a member alone sees what that member did without a seat.
-/

namespace LearningMap

def byId {ρ : Type} [Entity ρ] (rows : List ρ) : List ρ :=
  rows.mergeSort fun a b => Entity.id a ≤ Entity.id b

structure Edge extends Arrow where
  question : Option Id
  deriving DecidableEq

structure Seating where
  seat : Row.Seat
  map : Id
  deriving DecidableEq

namespace Tables

/-- Whether a row of a member and a seat is visible to a scope. -/
def visible (t : Tables) (scope : Scope) (member : Id) (seat : Option Id) : Bool :=
  match scope with
  | .seated _ _ play => seat.any fun s => t.seats.any fun r => r.id == s && r.play == play
  | .solo m => member == m && seat.isNone

def map? (t : Tables) (id : Id) : Option Row.Map :=
  t.maps.find? fun r => r.id == id && r.deletedAt.isNone

def node? (t : Tables) (id : Id) : Option Row.Node :=
  t.nodes.find? fun r => r.id == id && r.deletedAt.isNone

def nodesAmong (t : Tables) (ids : List Id) : List Row.Node :=
  byId (t.nodes.filter fun r => ids.contains r.id && r.deletedAt.isNone)

def nodesOf (t : Tables) (map : Id) : List Row.Node :=
  byId (t.nodes.filter fun r => r.map == map && r.deletedAt.isNone)

def rulesOf (t : Tables) (map : Id) : List Rule :=
  (byId (t.rules.filter fun r => r.map == map && r.deletedAt.isNone)).map fun r =>
    ⟨r.id, r.map, r.node⟩

def rulesFor (t : Tables) (node : Id) : List Row.Rule :=
  byId (t.rules.filter fun r => r.node == node && r.deletedAt.isNone)

def question? (t : Tables) (id : Id) : Option Row.Question :=
  t.questions.find? fun r => r.id == id && r.deletedAt.isNone

def acceptedFor (t : Tables) (question : Id) : List String :=
  (byId (t.acceptedAnswers.filter fun r => r.question == question && r.deletedAt.isNone)).map
    (·.answer)

/-- The live arrow of a question; of several the first counts. -/
def arrowOf? (t : Tables) (question : Id) : Option Row.Arrow :=
  (byId (t.arrows.filter fun r => r.question == some question && r.deletedAt.isNone)).head?

def arrowsInto (t : Tables) (rule : Id) : List Id :=
  (byId (t.arrows.filter fun r => r.rule == rule && r.deletedAt.isNone)).map (·.id)

def ruleOf? (t : Tables) (a : Row.Arrow) : Option Row.Rule :=
  t.rules.find? fun r => r.id == a.rule && r.deletedAt.isNone

/-- The live arrows under live rules. -/
def edges (t : Tables) : List Edge :=
  (byId (t.arrows.filter (·.deletedAt.isNone))).filterMap fun a =>
    (t.ruleOf? a).map fun r =>
      { id := a.id, map := a.map, start := a.start, rule := a.rule, target := r.node,
        question := a.question }

def edgesOf (t : Tables) (map : Id) : List Edge := t.edges.filter (·.map == map)

def edgesFrom (t : Tables) (nodes : List Id) : List Edge :=
  t.edges.filter fun e => nodes.contains e.start

def edgesInto (t : Tables) (node : Id) : List Edge := t.edges.filter (·.target == node)

def seating? (t : Tables) (id : Id) : Option Seating := do
  let seat ← t.seats.find? (·.id == id)
  let play ← t.plays.find? fun p => p.id == seat.play && p.deletedAt.isNone
  pure ⟨seat, play.map⟩

def resolvedRows (t : Tables) (scope : Scope) : List Row.ArrowProgress :=
  t.progresses.filter fun r => r.resolved && t.visible scope r.member r.seat

def resolution? (t : Tables) (arrow : Id) (scope : Scope) : Option Row.ArrowProgress :=
  (byId ((t.resolvedRows scope).filter (·.arrow == arrow))).head?

def resolvedArrows (t : Tables) (map : Id) (scope : Scope) : IdSet :=
  .ofList (((t.resolvedRows scope).filter (·.map == map)).map (·.arrow))

def resolvedAmong (t : Tables) (arrows : List Id) (scope : Scope) : IdSet :=
  .ofList (((t.resolvedRows scope).filter fun r => arrows.contains r.arrow).map (·.arrow))

/-- The rows of completed nodes of a map that a scope sees. -/
def completedRows (t : Tables) (map : Id) (scope : Scope) : List Row.NodeHistory :=
  t.histories.filter fun r => r.map == map && t.visible scope r.member r.seat

/-- The nodes of a map that a scope has completed, each with the rules that completed it. -/
def completedPairs (t : Tables) (map : Id) (scope : Scope) : List (Id × Id) :=
  (((t.completedRows map scope).map fun r => (r.node, r.rule)).mergeSort fun a b =>
    a.1 < b.1 || a.1 == b.1 && a.2 ≤ b.2).eraseDups

def completedNodes (t : Tables) (map : Id) (scope : Scope) : IdSet :=
  .ofList ((t.completedRows map scope).map (·.node))

def snapshot (t : Tables) (map : Id) (scope : Scope) : Snapshot :=
  .build map ((t.edgesOf map).map (·.toArrow)) (t.rulesOf map) (t.resolvedArrows map scope).toList
    (t.completedPairs map scope)

/-- The graph of a map with the progress of an actor; without a scope, a map with nothing on it. -/
def snapshotFor (t : Tables) (map : Id) (actor : Actor) : Snapshot :=
  match actor.scope? with
  | some scope => t.snapshot map scope
  | none => .empty map

def answer? (t : Tables) (id : Id) : Option Row.Answer := t.answers.find? (·.id == id)

def filesOf (t : Tables) (answer : Id) : List Row.AnswerFile :=
  byId (t.answerFiles.filter (·.answer == answer))

/-- Which of some questions a scope has answered correctly. -/
def solved (t : Tables) (questions : List Id) (scope : Scope) : IdSet :=
  .ofList ((t.answers.filter fun r =>
    questions.contains r.question && r.correct == some true && t.visible scope r.member r.seat).map
      (·.question))

end Tables

end LearningMap
