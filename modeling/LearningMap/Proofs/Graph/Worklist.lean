import LearningMap.Proofs.Graph.Run
import Mathlib.Data.List.Permutation

/-!
# The worklist of a propagation

The queue of a propagation grows while it is worked off: a visit puts the nodes of the rules that it
records behind those that wait. Each taking pays for one seed or one recorded rule, so the loop has
taken as many nodes in the end as there are seeds and recorded rules (`takes?_account`). The arrows
that leave a node are looked up when it is visited and at no other time: what the loop leads to is
what the visits of its nodes lead to, one after another (`Retraces`), and no node is among them twice.
-/

namespace LearningMap

namespace Run

theorem append_assoc (first second third : Run) :
    (first.append second).append third = first.append (second.append third) := by
  simp only [append, List.append_assoc]

theorem append_start (r : Run) : r.append (.start r.snapshot) = r := by
  simp only [append, start, List.append_nil]

end Run

namespace Snapshot

/-- Visits nodes one after another. All visits after the first one check the rules that they
touch. -/
def visits (scan : Scan) (s : Snapshot) : List Id → Run
  | [] => .start s
  | node :: nodes =>
    (s.visit scan node).append (visits .touched (s.visit scan node).snapshot nodes)

theorem visits_concat (scan : Scan) (s : Snapshot) (nodes : List Id) (node : Id) :
    s.visits scan (nodes ++ [node]) = (s.visits scan nodes).append
      ((s.visits scan nodes).snapshot.visit (if nodes = [] then scan else .touched) node) := by
  induction nodes generalizing scan s with
  | nil => exact Run.append_start _
  | cons n nodes ih =>
    rw [List.cons_append, visits, ih, ite_self, visits, Run.append_assoc,
      if_neg (List.cons_ne_nil n nodes)]
    rfl

end Snapshot

namespace Worklist

variable {later : Scan} {w v : Worklist}

/-- Takes a number of nodes one after another; none when the queue ends before. -/
def takes? (later : Scan) : Nat → Worklist → Option Worklist
  | 0, w => some w
  | count + 1, w => (w.take? later).bind (takes? later count)

theorem takes?_account {count : Nat} (taken : w.takes? later count = some v) :
    v.queue.length + w.run.recorded.length + count = w.queue.length + v.run.recorded.length := by
  induction count generalizing w with
  | zero => rw [Option.some.inj taken]; rfl
  | succ count ih =>
    obtain ⟨u, first, others⟩ := Option.bind_eq_some_iff.mp taken
    have account := ih others
    have step := take?_account first
    omega

theorem takes?_unrecorded {count : Nat} (taken : w.takes? later count = some v) :
    v.run.snapshot.unrecorded + v.run.recorded.length ≤
      w.run.snapshot.unrecorded + w.run.recorded.length := by
  induction count generalizing w with
  | zero => rw [Option.some.inj taken]
  | succ count ih =>
    obtain ⟨u, first, others⟩ := Option.bind_eq_some_iff.mp taken
    exact Nat.le_trans (ih others) (take?_unrecorded first)

theorem exists_takes (later : Scan) (w : Worklist) :
    ∃ count last, w.takes? later count = some last ∧ last.queue = [] ∧
      w.finish later = last.run := by
  fun_induction finish later w with
  | case1 w ended => exact ⟨0, w, rfl, take?_eq_none_iff.mp ended, rfl⟩
  | case2 w v taken ih =>
    obtain ⟨count, last, others, done, left⟩ := ih
    refine ⟨count + 1, last, ?_, done, left⟩
    rw [takes?, taken, Option.bind_some, others]

/-- A loop has done nothing but visit nodes of a snapshot, those that it has kept. -/
structure Retraces (w : Worklist) (s : Snapshot) : Prop where
  run_eq : w.run = s.visits .everything w.run.visited
  scan_eq : w.scan = if w.run.visited = [] then .everything else .touched

theorem Retraces.take? {s : Snapshot} (h : w.Retraces s) (taken : w.take? .touched = some v) :
    v.Retraces s := by
  obtain ⟨node, queue, -, ⟨-, rfl⟩ | ⟨-, rfl⟩⟩ := take?_cases taken
  · exact ⟨h.run_eq, h.scan_eq⟩
  · have visited : (w.run.append (w.run.snapshot.visit w.scan node)).visited =
        w.run.visited ++ [node] := rfl
    refine ⟨?_, ?_⟩
    · rw [visited, Snapshot.visits_concat, ← h.run_eq, ← h.scan_eq]
    · rw [visited, if_neg (List.append_ne_nil_of_right_ne_nil _ (List.cons_ne_nil node []))]

end Worklist

namespace Snapshot

theorem run_eq_visits (s : Snapshot) (seeds : List Id) :
    s.run seeds = s.visits .everything (s.run seeds).visited := by
  obtain ⟨last, retraces, -, ran⟩ :=
    run_of_kept (motive := (·.Retraces s)) Worklist.Retraces.take? ⟨rfl, rfl⟩
  rw [ran]
  exact retraces.run_eq

/-- The loop of a propagation ends, on every snapshot and for every list of seeds. It has then taken
exactly as many nodes as there are seeds and planned completions, no more of which are planned than
rules were not recorded at its start. It has visited the seeds and the nodes of these completions,
each of them once, and has led to what the visits lead to. -/
theorem propagate_worklist_bounded (s : Snapshot) (seeds : List Id) (scope : Scope)
    (now : Timestamp) :
    (s.propagate seeds scope now).2.completions.length ≤ s.unrecorded ∧
    ∃ last, (Worklist.start s seeds).takes? .touched
        (seeds.length + (s.propagate seeds scope now).2.completions.length) = some last ∧
      last.take? .touched = none ∧
      s.propagate seeds scope now = (last.run.snapshot, .ofRun last.run scope now) ∧
      last.run = s.visits .everything last.run.visited ∧
      last.run.visited.Nodup ∧
      ∀ n, n ∈ last.run.visited ↔
        n ∈ seeds ∨ ∃ c ∈ (s.propagate seeds scope now).2.completions, c.node = n := by
  obtain ⟨count, last, taken, done, ran⟩ := (Worklist.start s seeds).exists_takes .touched
  change s.run seeds = last.run at ran
  -- The queue is empty in the end, so the takings were paid by the seeds and the recorded rules.
  have account := Worklist.takes?_account taken
  have unrecorded := Worklist.takes?_unrecorded taken
  simp only [Worklist.start, Run.start, done, List.length_nil] at account unrecorded
  have completions : (s.propagate seeds scope now).2.completions.length =
      last.run.recorded.length := by
    rw [propagate_eq, ran, Plan.ofRun, List.length_map]
  rw [completions]
  refine ⟨by omega, last, ?takes, Worklist.take?_eq_none_iff.mpr done, ?same, ?visits, ?once, ?nodes⟩
  case takes =>
    rw [← taken]
    congr 1
    omega
  case same => rw [propagate_eq, ran]
  case visits =>
    rw [← ran]
    exact s.run_eq_visits seeds
  case once =>
    rw [← ran]
    exact s.nodup_visited_run seeds
  case nodes =>
    intro n
    rw [← ran, mem_visited_run, propagate_eq]
    simp [Plan.ofRun]

/-- A cycle of two nodes with a self-loop, in which two arrows have one id. -/
def tangle : Snapshot :=
  build 1 [⟨10, 1, 1, 100, 2⟩, ⟨11, 1, 2, 101, 1⟩, ⟨11, 1, 2, 102, 2⟩]
    [⟨100, 1, 2⟩, ⟨101, 1, 1⟩, ⟨102, 1, 2⟩] [] []

/-- A seed given twice and three rules make five takings, and two visits. -/
theorem propagate_worklist_bounded_on_tangle :
    (tangle.propagate [2, 2] (.solo 7) default).2.completions.map (·.node) = [1, 2, 2] ∧
    ∃ last, (Worklist.start tangle [2, 2]).takes? .touched 5 = some last ∧
      last.take? .touched = none ∧
      last.run = tangle.visits .everything last.run.visited ∧
      last.run.visited.Perm [1, 2] := by
  have nodes : (tangle.propagate [2, 2] (.solo 7) default).2.completions.map (·.node) =
      [1, 2, 2] := by cbv
  have completions : (tangle.propagate [2, 2] (.solo 7) default).2.completions.length = 3 := by
    rw [← List.length_map, nodes]
    rfl
  obtain ⟨-, last, taken, done, -, visits, once, visited⟩ :=
    propagate_worklist_bounded tangle [2, 2] (.solo 7) default
  rw [completions] at taken
  refine ⟨nodes, last, taken, done, visits, ?_⟩
  rw [List.perm_ext_iff_of_nodup once (by decide)]
  intro n
  rw [visited, ← List.mem_map (f := NodeCompletion.node), nodes]
  grind

end Snapshot

end LearningMap
