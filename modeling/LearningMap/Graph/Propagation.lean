import LearningMap.Scope
import LearningMap.Timestamp
import LearningMap.Graph.Lookahead

/-!
# Propagation of completion

From seed nodes on, the arrows that leave a visited node are resolved, the rules they lead into are
checked, and the node of every newly satisfied rule is visited in turn. Nodes wait in a queue and
none is visited twice. The first visit checks every rule of the map, which also finds rules that an
earlier call left satisfied and unrecorded; after it only a rule with a freshly resolved arrow can
change, so later visits need to check no other.

The queue ends because a visit puts in it only the nodes of rules that it records, and a recorded
rule never comes back: queue and unrecorded rules together shrink with each visit.
-/

namespace LearningMap

namespace Snapshot

def unrecorded (s : Snapshot) : Nat :=
  s.rules.toList.countP fun p => p.2.id ∉ s.progress.rules

def fresh (s : Snapshot) (node : Id) : List Arrow :=
  (s.outgoing node).filter fun a => a.id ∉ s.progress.arrows

def resolve (s : Snapshot) (as : List Arrow) : Snapshot :=
  { s with progress := s.progress.resolve (as.map (·.id)) }

def record (s : Snapshot) (rs : List Rule) : Snapshot :=
  { s with progress := s.progress.record rs }

end Snapshot

/-- Which rules a visit checks: all of the map, or those that a freshly resolved arrow leads
into. -/
inductive Scan where
  | everything
  | touched
  deriving DecidableEq

def Scan.satisfied (scan : Scan) (s : Snapshot) (resolved : List Arrow) : List Rule :=
  match scan with
  | .everything => s.allNewlySatisfied
  | .touched => s.newlySatisfied (.ofList (resolved.map (·.rule)))

/-- What a run leaves: the snapshot, the nodes it visited, the arrows it resolved and the rules it
recorded, each in the order of discovery. -/
structure Run where
  snapshot : Snapshot
  visited : List Id
  resolved : List Arrow
  recorded : List Rule

namespace Run

def start (s : Snapshot) : Run := ⟨s, [], [], []⟩

def append (first second : Run) : Run :=
  ⟨second.snapshot, first.visited ++ second.visited, first.resolved ++ second.resolved,
    first.recorded ++ second.recorded⟩

end Run

def Snapshot.visit (s : Snapshot) (scan : Scan) (node : Id) : Run :=
  let fresh := s.fresh node
  let s := s.resolve fresh
  let rules := scan.satisfied s fresh
  ⟨s.record rules, [node], fresh, rules⟩

/-- The loop of a propagation, before a node is taken from its queue. -/
structure Worklist where
  /-- Which rules the next visit checks. -/
  scan : Scan
  queue : List Id
  run : Run

namespace Worklist

def start (s : Snapshot) (seeds : List Id) : Worklist := ⟨.everything, seeds, .start s⟩

/-- Takes the next node from the queue, and visits it unless that has been done. The visits after it
check the rules that `later` says. -/
def take? (later : Scan) (w : Worklist) : Option Worklist :=
  match w.queue with
  | [] => none
  | node :: queue =>
    if node ∈ w.run.visited then some { w with queue }
    else
      let visit := w.run.snapshot.visit w.scan node
      some ⟨later, queue ++ visit.recorded.map (·.node), w.run.append visit⟩

variable {later : Scan} {w v : Worklist}

theorem take?_eq_none_iff : w.take? later = none ↔ w.queue = [] := by
  unfold take?
  split
  next ended => simp [ended]
  next node queue next => split <;> simp [next]

theorem take?_cases (taken : w.take? later = some v) :
    ∃ node queue, w.queue = node :: queue ∧
      (node ∈ w.run.visited ∧ v = { w with queue } ∨
        node ∉ w.run.visited ∧
          v = ⟨later, queue ++ (w.run.snapshot.visit w.scan node).recorded.map (·.node),
            w.run.append (w.run.snapshot.visit w.scan node)⟩) := by
  unfold take? at taken
  split at taken
  · cases taken
  next node queue next =>
    split at taken
    next seen => exact ⟨node, queue, next, .inl ⟨seen, (Option.some.inj taken).symm⟩⟩
    next unseen => exact ⟨node, queue, next, .inr ⟨unseen, (Option.some.inj taken).symm⟩⟩

end Worklist

namespace Snapshot

@[simp] theorem unrecorded_resolve (s : Snapshot) (as : List Arrow) :
    (s.resolve as).unrecorded = s.unrecorded := rfl

theorem unrecorded_record (s : Snapshot) (rs : List Rule) :
    s.unrecorded = (s.record rs).unrecorded +
      s.rules.toList.countP fun p => p.2.id ∉ s.progress.rules ∧ p.2.id ∈ rs.map (·.id) := by
  have recorded (i : Id) : i ∈ (s.record rs).progress.rules ↔
      i ∈ s.progress.rules ∨ i ∈ rs.map (·.id) := IdSet.mem_insertAll
  unfold unrecorded
  rw [List.countP_eq_countP_filter_add _ _ fun p => decide (p.2.id ∉ rs.map (·.id))]
  simp only [List.countP_filter, recorded]
  congr 1 <;> exact List.countP_congr (by grind)

def found (s : Snapshot) (candidates : IdSet) : List (Id × Rule) :=
  (candidates.toList.filterMap fun i => (s.rules[i]?).map (i, ·)).filter fun p =>
    p.2.id ∉ s.progress.rules ∧ s.satisfied p.2.id

theorem map_found (s : Snapshot) (candidates : IdSet) :
    (s.found candidates).map (·.2) = s.newlySatisfied candidates := by
  have rules : candidates.toList.filterMap (s.rules[·]?) =
      (candidates.toList.filterMap fun i => (s.rules[i]?).map (i, ·)).map (·.2) := by
    simp [List.map_filterMap, Function.comp_def]
  rw [newlySatisfied, rules, List.filter_map]
  rfl

theorem of_mem_found {s : Snapshot} {candidates : IdSet} {p : Id × Rule}
    (hp : p ∈ s.found candidates) : p ∈ s.rules.toList ∧ p.2.id ∉ s.progress.rules := by
  simp only [found, List.mem_filter, List.mem_filterMap, Option.map_eq_some_iff,
    decide_eq_true_eq] at hp
  obtain ⟨⟨i, -, r, hr, rfl⟩, unrecorded, -⟩ := hp
  exact ⟨Std.ExtTreeMap.mem_toList_iff_getElem?_eq_some.mpr hr, unrecorded⟩

theorem nodup_found (s : Snapshot) (candidates : IdSet) : (s.found candidates).Nodup := by
  apply List.Pairwise.filter
  apply List.Pairwise.filterMap _ _ Std.ExtTreeSet.ordered_toList
  rintro i j lt p hp q hq rfl
  obtain ⟨r, -, rfl⟩ := Option.map_eq_some_iff.mp hp
  obtain ⟨r', -, same⟩ := Option.map_eq_some_iff.mp hq
  rw [(Prod.mk.inj same).1, Std.compare_self] at lt
  cases lt

/-- Recording rules that were found newly satisfied takes each of them off the unrecorded ones. -/
theorem unrecorded_record_newlySatisfied (s : Snapshot) (candidates : IdSet) :
    (s.record (s.newlySatisfied candidates)).unrecorded + (s.newlySatisfied candidates).length
      ≤ s.unrecorded := by
  rw [← map_found, s.unrecorded_record, List.length_map, List.countP_eq_length_filter]
  apply Nat.add_le_add_left
  apply (nodup_found s candidates).length_le_of_subset
  intro p hp
  obtain ⟨rule, unrecorded⟩ := of_mem_found hp
  rw [List.mem_filter, decide_eq_true_eq]
  exact ⟨rule, unrecorded, List.mem_map_of_mem (List.mem_map_of_mem hp)⟩

theorem unrecorded_visit (s : Snapshot) (scan : Scan) (node : Id) :
    (s.visit scan node).snapshot.unrecorded + (s.visit scan node).recorded.length
      ≤ s.unrecorded := by
  cases scan <;>
    exact unrecorded_record_newlySatisfied (s.resolve (s.fresh node)) _

end Snapshot

namespace Worklist

variable {later : Scan} {w v : Worklist}

theorem take?_account (taken : w.take? later = some v) :
    v.queue.length + w.run.recorded.length + 1 = w.queue.length + v.run.recorded.length := by
  obtain ⟨node, queue, next, ⟨-, rfl⟩ | ⟨-, rfl⟩⟩ := take?_cases taken
  · simp only [next, List.length_cons]
    omega
  · simp only [next, Run.append, List.length_cons, List.length_append, List.length_map]
    omega

theorem take?_unrecorded (taken : w.take? later = some v) :
    v.run.snapshot.unrecorded + v.run.recorded.length ≤
      w.run.snapshot.unrecorded + w.run.recorded.length := by
  obtain ⟨node, queue, -, ⟨-, rfl⟩ | ⟨-, rfl⟩⟩ := take?_cases taken
  · exact Nat.le_refl _
  · have visit := w.run.snapshot.unrecorded_visit w.scan node
    simp only [Run.append, List.length_append]
    omega

def finish (later : Scan) (w : Worklist) : Run :=
  match _taken : w.take? later with
  | none => w.run
  | some v => v.finish later
termination_by w.queue.length + w.run.snapshot.unrecorded
decreasing_by
  have account := take?_account ‹_›
  have unrecorded := take?_unrecorded ‹_›
  omega

theorem finish_of_ended (ended : w.queue = []) : w.finish later = w.run := by
  rw [finish, take?_eq_none_iff.mpr ended]

theorem finish_of_taken (taken : w.take? later = some v) : w.finish later = v.finish later := by
  rw [finish, taken]

end Worklist

structure ArrowResolution where
  map : Id
  arrow : Id
  member : Id
  seat : Option Id
  time : Timestamp
  deriving DecidableEq

structure NodeCompletion where
  map : Id
  node : Id
  rule : Id
  member : Id
  seat : Option Id
  time : Timestamp
  deriving DecidableEq

/-- All that a propagation wants to store, in the order of discovery, and the nodes that gained
progress by it. -/
structure Plan where
  resolutions : List ArrowResolution
  completions : List NodeCompletion
  activated : IdSet

namespace Plan

def isEmpty (p : Plan) : Bool := p.resolutions.isEmpty && p.completions.isEmpty

/-- The nodes completed, each once, in the order of discovery. -/
def completedNodes (p : Plan) : List Id := (p.completions.map (·.node)).eraseDups

def ofRun (run : Run) (scope : Scope) (now : Timestamp) : Plan :=
  let completions := run.recorded.map fun r =>
    ⟨run.snapshot.map, r.node, r.id, scope.member, scope.seat, now⟩
  { resolutions := run.resolved.map fun a => ⟨a.map, a.id, scope.member, scope.seat, now⟩
    completions
    activated := activatable run.snapshot.arrows (run.recorded.map (·.node)).eraseDups
      run.snapshot.progress.nodes }

end Plan

namespace Snapshot

/-- Propagates completion from the seeds: the snapshot afterwards and the rows to store. -/
def propagate (s : Snapshot) (seeds : List Id) (scope : Scope) (now : Timestamp) :
    Snapshot × Plan :=
  let run := (Worklist.start s seeds).finish .touched
  (run.snapshot, .ofRun run scope now)

/-- The plain form of `propagate`, which checks every rule of the map on every visit. -/
def propagateByFullScan (s : Snapshot) (seeds : List Id) (scope : Scope) (now : Timestamp) :
    Snapshot × Plan :=
  let run := (Worklist.start s seeds).finish .everything
  (run.snapshot, .ofRun run scope now)

end Snapshot

end LearningMap
