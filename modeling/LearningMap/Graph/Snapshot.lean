import LearningMap.Id

/-!
# The graph of one map, with the progress of one scope

Arrows run from a start node into a rule, and a rule completes its node once all its arrows are
resolved. A snapshot indexes the arrows and rules of one map by the keys that the other modules look
up, beside what a scope has resolved and completed.
-/

namespace LearningMap

/-- An arrow from a start node into a rule; its target is the node of that rule. -/
structure Arrow where
  id : Id
  map : Id
  start : Id
  rule : Id
  target : Id
  deriving DecidableEq

def Arrow.isSelfLoop (a : Arrow) : Bool := a.start == a.target

structure Rule where
  id : Id
  map : Id
  node : Id
  deriving DecidableEq

structure Progress where
  arrows : IdSet
  nodes : IdSet
  rules : IdSet
  deriving DecidableEq

def Progress.empty : Progress := ⟨∅, ∅, ∅⟩

def Progress.resolve (p : Progress) (ids : List Id) : Progress :=
  { p with arrows := p.arrows.insertAll ids }

def Progress.record (p : Progress) (rs : List Rule) : Progress :=
  { p with
    nodes := p.nodes.insertAll (rs.map (·.node))
    rules := p.rules.insertAll (rs.map (·.id)) }

/-- The graph of one map as one scope sees it. -/
structure Snapshot where
  map : Id
  /-- The arrows that leave a node, ascending by id. -/
  arrowsFrom : IdMap (List Arrow)
  /-- The rules that complete a node, ascending by id. -/
  rulesFor : IdMap (List Rule)
  arrowsInto : IdMap IdSet
  rules : IdMap Rule
  progress : Progress
  deriving DecidableEq

namespace Snapshot

def empty (map : Id) : Snapshot := ⟨map, ∅, ∅, ∅, ∅, .empty⟩

def addArrow (s : Snapshot) (a : Arrow) : Snapshot :=
  { s with
    arrowsFrom := s.arrowsFrom.alter a.start fun as => some (as.getD [] ++ [a])
    arrowsInto := s.arrowsInto.alter a.rule fun ids => some ((ids.getD ∅).insert a.id) }

/-- The rules of a list under their ids; of two with one id the later one stays. -/
def indexRules (rs : List Rule) : IdMap Rule := rs.foldl (fun m r => m.insert r.id r) ∅

def groupRules (rs : List Rule) : IdMap (List Rule) :=
  rs.foldl (fun m r => m.alter r.node fun l => some (l.getD [] ++ [r])) ∅

/-- Indexes the arrows and rules of one map, whatever the order they come in, beside the resolved
arrows and the completed pairs of a node and the rule that completed it. -/
def build (map : Id) (arrows : List Arrow) (rules : List Rule) (resolved : List Id)
    (completed : List (Id × Id)) : Snapshot :=
  let own := (arrows.filter (·.map == map)).mergeSort (fun a b => a.id ≤ b.id)
  let index := indexRules (rules.filter (·.map == map))
  own.foldl addArrow
    { empty map with
      rules := index
      rulesFor := groupRules index.values
      progress :=
        { arrows := .ofList resolved
          nodes := .ofList (completed.map (·.1))
          rules := .ofList (completed.map (·.2)) } }

def outgoing (s : Snapshot) (node : Id) : List Arrow := s.arrowsFrom.getD node []

def ruleArrows? (s : Snapshot) (rule : Id) : Option IdSet := s.arrowsInto[rule]?

def arrows (s : Snapshot) : List Arrow := s.arrowsFrom.values.flatten

/-- A rule is satisfied when it has arrows and all of them are resolved. A rule without arrows is
never satisfied: nothing could have been done to earn it. -/
def satisfied (s : Snapshot) (rule : Id) : Bool :=
  match s.ruleArrows? rule with
  | some ids => !ids.isEmpty && ids.toList.all (· ∈ s.progress.arrows)
  | none => false

/-- The satisfied rules among the candidates that are not recorded yet, ascending by id. Candidates
that the map does not have are passed over. -/
def newlySatisfied (s : Snapshot) (candidates : IdSet) : List Rule :=
  (candidates.toList.filterMap (s.rules[·]?)).filter fun r =>
    r.id ∉ s.progress.rules ∧ s.satisfied r.id

def allNewlySatisfied (s : Snapshot) : List Rule := s.newlySatisfied (.ofList s.rules.keys)

end Snapshot

end LearningMap
