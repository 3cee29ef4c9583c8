import LearningMap.Graph.Propagation
import LearningMap.Proofs.Graph.Index

/-!
# What a run adds to a snapshot

A run lists the arrows that it resolved and the rules that it recorded. `Run.Extends` says that these
are the difference between the snapshots before and after it: every one of them is of the graph, was
open before and is listed once. One visit extends the snapshot it starts from, extensions compose,
and so a whole run is one (`run_extends`). What holds of a run in the end is told by what each taking
from the queue keeps (`Worklist.finish_of_kept`).
-/

namespace LearningMap

def IdSet.toSet (s : IdSet) : Set Id := {i | i ∈ s}

@[simp] theorem IdSet.mem_toSet {s : IdSet} {i : Id} : i ∈ s.toSet ↔ i ∈ s := Iff.rfl

namespace Snapshot

/-- A rule is earned by any arrows that include its own, as long as it has some. -/
def Earned (s : Snapshot) (arrows : Set Id) (rule : Id) : Prop :=
  (∃ i, i ∈ s.ruleArrows rule) ∧ ∀ i ∈ s.ruleArrows rule, i ∈ arrows

theorem Earned.mono {s : Snapshot} {as bs : Set Id} {rule : Id} (h : s.Earned as rule)
    (sub : as ⊆ bs) : s.Earned bs rule :=
  ⟨h.1, fun i hi => sub (h.2 i hi)⟩

theorem earned_eq_of_graph {s t : Snapshot} (h : s.graph = t.graph) : s.Earned = t.Earned := by
  unfold Earned
  simp only [ruleArrows_eq_of_graph h]

theorem satisfied_iff (s : Snapshot) (rule : Id) :
    s.satisfied rule = true ↔ s.Earned s.progress.arrows.toSet rule := by
  unfold satisfied Earned ruleArrows
  cases s.ruleArrows? rule with
  | none => simp
  | some ids =>
    have nonempty : (!ids.isEmpty) = true ↔ ∃ i, i ∈ ids := by
      rw [Bool.not_eq_true', IdSet.isEmpty_eq_false_iff_exists]
    simp only [Bool.and_eq_true, nonempty, List.all_eq_true, Std.ExtTreeSet.mem_toList,
      decide_eq_true_eq, Option.getD_some, IdSet.mem_toSet]

theorem mem_newlySatisfied {s : Snapshot} {candidates : IdSet} {r : Rule} :
    r ∈ s.newlySatisfied candidates ↔
      (∃ i ∈ candidates, s.rules[i]? = some r) ∧ r.id ∉ s.progress.rules ∧
        s.Earned s.progress.arrows.toSet r.id := by
  simp only [newlySatisfied, List.mem_filter, List.mem_filterMap, Std.ExtTreeSet.mem_toList,
    decide_eq_true_eq, satisfied_iff]

theorem mem_allNewlySatisfied {s : Snapshot} {r : Rule} :
    r ∈ s.allNewlySatisfied ↔
      (∃ i : Id, s.rules[i]? = some r) ∧ r.id ∉ s.progress.rules ∧
        s.Earned s.progress.arrows.toSet r.id := by
  rw [allNewlySatisfied, mem_newlySatisfied]
  refine and_congr_left fun _ => exists_congr fun i => and_iff_right_of_imp fun h => ?_
  rw [IdSet.mem_ofList, Std.ExtTreeMap.mem_keys, Std.ExtTreeMap.mem_iff_isSome_getElem?, h]
  rfl

theorem newlySatisfied_sorted {s : Snapshot} (keyed : s.RulesKeyed) (candidates : IdSet) :
    (s.newlySatisfied candidates).Pairwise (·.id < ·.id) := by
  refine List.Pairwise.filter _ (List.Pairwise.filterMap _ ?_ Std.ExtTreeSet.ordered_toList)
  intro i j hij r hr q hq
  rw [keyed i r hr, keyed j q hq]
  exact Std.compare_eq_lt.mp hij

section Progress

variable (s : Snapshot) (as : List Arrow) (rs : List Rule)

@[simp] theorem rules_resolve : (s.resolve as).progress.rules = s.progress.rules := rfl

@[simp] theorem nodes_resolve : (s.resolve as).progress.nodes = s.progress.nodes := rfl

@[simp] theorem arrows_record : (s.record rs).progress.arrows = s.progress.arrows := rfl

@[simp] theorem mem_arrows_resolve {i : Id} :
    i ∈ (s.resolve as).progress.arrows ↔ i ∈ s.progress.arrows ∨ ∃ a ∈ as, a.id = i := by
  simp [resolve, Progress.resolve]

@[simp] theorem mem_rules_record {i : Id} :
    i ∈ (s.record rs).progress.rules ↔ i ∈ s.progress.rules ∨ ∃ r ∈ rs, r.id = i := by
  simp [record, Progress.record]

@[simp] theorem mem_nodes_record {n : Id} :
    n ∈ (s.record rs).progress.nodes ↔ n ∈ s.progress.nodes ∨ ∃ r ∈ rs, r.node = n := by
  simp [record, Progress.record]

theorem resolve_append (bs : List Arrow) : s.resolve (as ++ bs) = (s.resolve as).resolve bs := by
  simp [resolve, Progress.resolve, IdSet.insertAll_append]

theorem record_append (qs : List Rule) : s.record (rs ++ qs) = (s.record rs).record qs := by
  simp [record, Progress.record, IdSet.insertAll_append]

theorem resolve_record : (s.record rs).resolve as = (s.resolve as).record rs := rfl

end Progress

@[simp] theorem mem_fresh {s : Snapshot} {n : Id} {a : Arrow} :
    a ∈ s.fresh n ↔ a ∈ s.outgoing n ∧ a.id ∉ s.progress.arrows := by
  simp [fresh]

end Snapshot

namespace Run

/-- A run lists exactly what it adds to a snapshot: arrows and rules of the graph that were open,
each once. -/
structure Extends (run : Run) (s : Snapshot) : Prop where
  snapshot_eq : run.snapshot = (s.resolve run.resolved).record run.recorded
  outgoing : ∀ a ∈ run.resolved, ∃ n ∈ run.visited, a ∈ s.outgoing n
  unresolved : ∀ a ∈ run.resolved, a.id ∉ s.progress.arrows
  nodup_resolved : (run.resolved.map (·.id)).Nodup
  rule : ∀ r ∈ run.recorded, s.rules[r.id]? = some r
  unrecorded : ∀ r ∈ run.recorded, r.id ∉ s.progress.rules
  nodup_recorded : (run.recorded.map (·.id)).Nodup

namespace Extends

variable {run first second : Run} {s : Snapshot}

theorem start (s : Snapshot) : (Run.start s).Extends s := by
  constructor <;> simp [Run.start, Snapshot.resolve, Snapshot.record, Progress.resolve, Progress.record,
    IdSet.insertAll]

section Members

variable (h : run.Extends s)
include h

theorem graph_eq : run.snapshot.graph = s.graph := by
  rw [h.snapshot_eq]
  rfl

theorem mem_arrows {i : Id} :
    i ∈ run.snapshot.progress.arrows ↔ i ∈ s.progress.arrows ∨ ∃ a ∈ run.resolved, a.id = i := by
  rw [h.snapshot_eq]
  simp

theorem mem_rules {i : Id} :
    i ∈ run.snapshot.progress.rules ↔ i ∈ s.progress.rules ∨ ∃ r ∈ run.recorded, r.id = i := by
  rw [h.snapshot_eq]
  simp

theorem mem_nodes {n : Id} :
    n ∈ run.snapshot.progress.nodes ↔ n ∈ s.progress.nodes ∨ ∃ r ∈ run.recorded, r.node = n := by
  rw [h.snapshot_eq]
  simp

/-- The resolved arrows are the arrows of the graph that were open before and are not after. -/
theorem mem_resolved (wf : s.WellFormed) {a : Arrow} :
    a ∈ run.resolved ↔ (∃ n, a ∈ s.outgoing n) ∧ a.id ∉ s.progress.arrows ∧
      a.id ∈ run.snapshot.progress.arrows := by
  constructor
  · intro ha
    obtain ⟨n, -, hn⟩ := h.outgoing a ha
    exact ⟨⟨n, hn⟩, h.unresolved a ha, h.mem_arrows.mpr (.inr ⟨a, ha, rfl⟩)⟩
  · rintro ⟨⟨n, ha⟩, fresh, done⟩
    rcases h.mem_arrows.mp done with old | ⟨b, hb, hid⟩
    · exact absurd old fresh
    · obtain ⟨m, -, hbm⟩ := h.outgoing b hb
      rwa [wf.eq_of_id ha hbm hid.symm]

/-- The recorded rules are the rules of the graph that were not recorded before and are after. -/
theorem mem_recorded {r : Rule} :
    r ∈ run.recorded ↔ s.rules[r.id]? = some r ∧ r.id ∉ s.progress.rules ∧
      r.id ∈ run.snapshot.progress.rules := by
  constructor
  · intro hr
    exact ⟨h.rule r hr, h.unrecorded r hr, h.mem_rules.mpr (.inr ⟨r, hr, rfl⟩)⟩
  · rintro ⟨hr, fresh, done⟩
    rcases h.mem_rules.mp done with old | ⟨q, hq, hid⟩
    · exact absurd old fresh
    · have found := h.rule q hq
      rw [hid, hr] at found
      rwa [Option.some.inj found]

end Members

/-- Extensions compose. What the second run adds was open after the first one, so nothing is listed
twice. -/
theorem append (h₁ : first.Extends s) (h₂ : second.Extends first.snapshot) :
    (first.append second).Extends s where
  snapshot_eq := by
    rw [Run.append, h₂.snapshot_eq, h₁.snapshot_eq, Snapshot.resolve_append,
      Snapshot.record_append, Snapshot.resolve_record]
  outgoing a ha := by
    rcases List.mem_append.mp ha with ha | ha
    · obtain ⟨n, visited, hn⟩ := h₁.outgoing a ha
      exact ⟨n, List.mem_append_left _ visited, hn⟩
    · obtain ⟨n, visited, hn⟩ := h₂.outgoing a ha
      exact ⟨n, List.mem_append_right _ visited, Snapshot.outgoing_eq_of_graph h₁.graph_eq n ▸ hn⟩
  unresolved a ha := by
    rcases List.mem_append.mp ha with ha | ha
    · exact h₁.unresolved a ha
    · exact fun old => h₂.unresolved a ha (h₁.mem_arrows.mpr (.inl old))
  nodup_resolved := by
    rw [Run.append, List.map_append]
    refine List.Nodup.append h₁.nodup_resolved h₂.nodup_resolved fun i hi₁ hi₂ => ?_
    obtain ⟨a, ha, rfl⟩ := List.mem_map.mp hi₁
    obtain ⟨b, hb, hid⟩ := List.mem_map.mp hi₂
    exact h₂.unresolved b hb (h₁.mem_arrows.mpr (.inr ⟨a, ha, hid.symm⟩))
  rule r hr := by
    rcases List.mem_append.mp hr with hr | hr
    · exact h₁.rule r hr
    · exact Snapshot.rules_eq_of_graph h₁.graph_eq ▸ h₂.rule r hr
  unrecorded r hr := by
    rcases List.mem_append.mp hr with hr | hr
    · exact h₁.unrecorded r hr
    · exact fun old => h₂.unrecorded r hr (h₁.mem_rules.mpr (.inl old))
  nodup_recorded := by
    rw [Run.append, List.map_append]
    refine List.Nodup.append h₁.nodup_recorded h₂.nodup_recorded fun i hi₁ hi₂ => ?_
    obtain ⟨r, hr, rfl⟩ := List.mem_map.mp hi₁
    obtain ⟨q, hq, hid⟩ := List.mem_map.mp hi₂
    exact h₂.unrecorded q hq (h₁.mem_rules.mpr (.inr ⟨r, hr, hid.symm⟩))

theorem snapshot_ext (h₁ : first.Extends s) (h₂ : second.Extends s)
    (arrows : first.snapshot.progress.arrows = second.snapshot.progress.arrows)
    (rules : first.snapshot.progress.rules = second.snapshot.progress.rules) :
    first.snapshot = second.snapshot := by
  apply Snapshot.ext_graph (h₁.graph_eq.trans h₂.graph_eq.symm)
  have nodes : first.snapshot.progress.nodes = second.snapshot.progress.nodes := by
    rw [IdSet.ext_iff]
    intro n
    rw [h₁.mem_nodes, h₂.mem_nodes]
    simp only [h₁.mem_recorded, h₂.mem_recorded, rules]
  cases hp : first.snapshot.progress
  cases hq : second.snapshot.progress
  simp_all

theorem perm (wf : s.WellFormed) (h₁ : first.Extends s) (h₂ : second.Extends s)
    (same : first.snapshot = second.snapshot) :
    first.resolved.Perm second.resolved ∧ first.recorded.Perm second.recorded := by
  constructor
  · rw [List.perm_ext_iff_of_nodup h₁.nodup_resolved.of_map h₂.nodup_resolved.of_map]
    intro a
    rw [h₁.mem_resolved wf, h₂.mem_resolved wf, same]
  · rw [List.perm_ext_iff_of_nodup h₁.nodup_recorded.of_map h₂.nodup_recorded.of_map]
    intro r
    rw [h₁.mem_recorded, h₂.mem_recorded, same]

end Extends

end Run

namespace Snapshot

variable {s : Snapshot}

/-- What a visit records was open, and is satisfied with the arrows that the visit resolves. -/
theorem mem_recorded_visit (wf : s.WellFormed) {scan : Scan} {n : Id} {r : Rule}
    (hr : r ∈ (s.visit scan n).recorded) :
    s.rules[r.id]? = some r ∧ r.id ∉ s.progress.rules ∧
      s.Earned (s.visit scan n).snapshot.progress.arrows.toSet r.id := by
  have found : ∃ i : Id, s.rules[i]? = some r := by
    cases scan with
    | everything => exact (mem_allNewlySatisfied.mp hr).1
    | touched => exact (mem_newlySatisfied.mp hr).1.imp fun _ h => h.2
  have satisfied : r.id ∉ s.progress.rules ∧
      s.Earned (s.visit scan n).snapshot.progress.arrows.toSet r.id := by
    cases scan with
    | everything => exact (mem_allNewlySatisfied.mp hr).2
    | touched => exact (mem_newlySatisfied.mp hr).2
  obtain ⟨i, hi⟩ := found
  have hid := wf.id_of_rule hi
  exact ⟨hid ▸ hi, satisfied⟩

theorem visit_extends (wf : s.WellFormed) (scan : Scan) (n : Id) :
    (s.visit scan n).Extends s where
  snapshot_eq := rfl
  outgoing a ha := ⟨n, List.mem_singleton_self n, (mem_fresh.mp ha).1⟩
  unresolved a ha := (mem_fresh.mp ha).2
  nodup_resolved := by
    refine ((wf.nodup_outgoing n).filter _).map_on fun a ha b hb hid => ?_
    exact wf.eq_of_id (List.mem_filter.mp ha).1 (List.mem_filter.mp hb).1 hid
  rule r hr := (mem_recorded_visit wf hr).1
  unrecorded r hr := (mem_recorded_visit wf hr).2.1
  nodup_recorded := by
    have wf' : (s.resolve (s.fresh n)).WellFormed := wf.of_graph rfl
    apply List.pairwise_map.mpr
    cases scan <;>
      exact (newlySatisfied_sorted wf'.rulesKeyed _).imp fun lt eq => absurd eq (ne_of_lt lt)

theorem resolved_visit (s : Snapshot) (scan : Scan) {n : Id} {a : Arrow} (ha : a ∈ s.outgoing n) :
    a.id ∈ (s.visit scan n).snapshot.progress.arrows := by
  apply (mem_arrows_resolve s (s.fresh n)).mpr
  by_cases old : a.id ∈ s.progress.arrows
  · exact .inl old
  · exact .inr ⟨a, mem_fresh.mpr ⟨ha, old⟩, rfl⟩

end Snapshot

namespace Worklist

variable {later : Scan} {w v : Worklist}

/-- What every taking keeps still holds when the loop has ended. -/
theorem finish_of_kept {motive : Worklist → Prop}
    (kept : ∀ {w v : Worklist}, motive w → w.take? later = some v → motive v) (h : motive w) :
    ∃ last, motive last ∧ last.queue = [] ∧ w.finish later = last.run := by
  fun_induction finish later w with
  | case1 w ended => exact ⟨w, h, take?_eq_none_iff.mp ended, rfl⟩
  | case2 w v taken ih => exact ih (kept h taken)

theorem Extends.take? {s : Snapshot} (wf : s.WellFormed) (h : w.run.Extends s)
    (taken : w.take? later = some v) : v.run.Extends s := by
  obtain ⟨node, queue, -, ⟨-, rfl⟩ | ⟨-, rfl⟩⟩ := take?_cases taken
  · exact h
  · exact h.append (Snapshot.visit_extends (wf.of_graph h.graph_eq) w.scan node)

/-- The nodes that a loop has visited are distinct. Together with those that wait they are the seeds
and the nodes of the recorded rules. -/
structure Tracks (w : Worklist) (seeds : List Id) : Prop where
  nodup : w.run.visited.Nodup
  mem_iff : ∀ n, n ∈ w.run.visited ∨ n ∈ w.queue ↔ n ∈ seeds ∨ ∃ r ∈ w.run.recorded, r.node = n

theorem tracks_start (s : Snapshot) (seeds : List Id) : (start s seeds).Tracks seeds where
  nodup := List.nodup_nil
  mem_iff n := by simp [start, Run.start]

theorem Tracks.take? {seeds : List Id} (h : w.Tracks seeds) (taken : w.take? later = some v) :
    v.Tracks seeds := by
  obtain ⟨node, queue, next, ⟨seen, rfl⟩ | ⟨unseen, rfl⟩⟩ := take?_cases taken
  · refine ⟨h.nodup, fun n => ?_⟩
    rw [← h.mem_iff, next, List.mem_cons]
    grind
  · refine ⟨?nodup, fun n => ?mem_iff⟩
    case nodup =>
      apply h.nodup.append (List.nodup_singleton node)
      rwa [List.disjoint_singleton]
    case mem_iff =>
      have before := h.mem_iff n
      rw [next, List.mem_cons] at before
      simp only [Run.append, Snapshot.visit, List.mem_append, List.mem_singleton, List.mem_map]
      grind

end Worklist

namespace Snapshot

variable {s : Snapshot}

def run (s : Snapshot) (seeds : List Id) : Run := (Worklist.start s seeds).finish .touched

theorem propagate_eq (s : Snapshot) (seeds : List Id) (scope : Scope) (now : Timestamp) :
    s.propagate seeds scope now = ((s.run seeds).snapshot, .ofRun (s.run seeds) scope now) :=
  rfl

@[simp] theorem run_nil (s : Snapshot) : s.run [] = ⟨s, [], [], []⟩ := Worklist.finish_of_ended rfl

/-- What every taking keeps holds of the loop that a run comes from, once it has ended. -/
theorem run_of_kept {motive : Worklist → Prop} {seeds : List Id}
    (kept : ∀ {w v : Worklist}, motive w → w.take? .touched = some v → motive v)
    (h : motive (.start s seeds)) :
    ∃ last, motive last ∧ last.queue = [] ∧ s.run seeds = last.run :=
  Worklist.finish_of_kept kept h

/-- What holds of a snapshot and the nodes that wait, and is kept by visits, holds in the end of a
run. -/
theorem run_of_visits {motive : Snapshot → List Id → Prop} {seeds : List Id}
    (pass : ∀ {t n queue}, motive t (n :: queue) → motive t queue)
    (visit : ∀ {t n queue} (scan : Scan), t.graph = s.graph → motive t (n :: queue) →
      motive (t.visit scan n).snapshot (queue ++ (t.visit scan n).recorded.map (·.node)))
    (h : motive s seeds) : motive (s.run seeds).snapshot [] := by
  have kept : ∀ {w v : Worklist}, w.run.snapshot.graph = s.graph ∧ motive w.run.snapshot w.queue →
      w.take? .touched = some v →
        v.run.snapshot.graph = s.graph ∧ motive v.run.snapshot v.queue := by
    rintro w v ⟨graph, holds⟩ taken
    obtain ⟨node, queue, next, ⟨-, rfl⟩ | ⟨-, rfl⟩⟩ := Worklist.take?_cases taken
    · rw [next] at holds
      exact ⟨graph, pass holds⟩
    · rw [next] at holds
      exact ⟨graph, visit w.scan graph holds⟩
  obtain ⟨last, ⟨-, holds⟩, done, ran⟩ := run_of_kept kept ⟨rfl, h⟩
  rwa [ran, ← done]

@[simp] theorem map_run (s : Snapshot) (seeds : List Id) : (s.run seeds).snapshot.map = s.map :=
  run_of_visits (motive := fun t _ => t.map = s.map) id (fun _ _ same => same) rfl

theorem run_extends (wf : s.WellFormed) (seeds : List Id) : (s.run seeds).Extends s := by
  obtain ⟨last, added, -, ran⟩ :=
    run_of_kept (motive := (·.run.Extends s)) (Worklist.Extends.take? wf) (.start s)
  rwa [ran]

theorem exists_tracks_run (s : Snapshot) (seeds : List Id) :
    ∃ last : Worklist, last.Tracks seeds ∧ last.queue = [] ∧ s.run seeds = last.run :=
  run_of_kept Worklist.Tracks.take? (Worklist.tracks_start s seeds)

/-- A run visits no node twice. -/
theorem nodup_visited_run (s : Snapshot) (seeds : List Id) : (s.run seeds).visited.Nodup := by
  obtain ⟨last, tracks, -, ran⟩ := s.exists_tracks_run seeds
  rw [ran]
  exact tracks.nodup

/-- A run visits the seeds and the nodes of the rules that it records. -/
theorem mem_visited_run {seeds : List Id} {n : Id} :
    n ∈ (s.run seeds).visited ↔ n ∈ seeds ∨ ∃ r ∈ (s.run seeds).recorded, r.node = n := by
  obtain ⟨last, tracks, done, ran⟩ := s.exists_tracks_run seeds
  rw [ran, ← tracks.mem_iff, done]
  simp

end Snapshot

end LearningMap
