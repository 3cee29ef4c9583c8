import LearningMap.Proofs.Store.Visibility
import LearningMap.Service.Completion

/-!
# Booking progress

Progress is booked by adding rows to two tables. The rows that one scope books for one map change
what the scopes that share progress with it load of that map, and nothing else: a snapshot of
another map, or of another scope, is loaded as before.
-/

namespace LearningMap

open Entity

section Numbered

variable {ρ : Type} [Entity ρ] {last : Id} {rows : List ρ}

theorem map_numbered {β : Type} {f : ρ → β} (h : ∀ r i, f (withId r i) = f r) :
    (numbered last rows).map f = rows.map f := by
  induction rows generalizing last with
  | nil => rfl
  | cons r rs ih => rw [numbered, List.map_cons, List.map_cons, h, ih]

theorem exists_of_mem_numbered {r : ρ} (h : r ∈ numbered last rows) :
    ∃ q ∈ rows, ∃ i, r = withId q i := by
  induction rows generalizing last with
  | nil => cases h
  | cons q rs ih =>
    rcases List.mem_cons.mp h with rfl | h
    · exact ⟨q, List.mem_cons_self, _, rfl⟩
    · obtain ⟨o, ho, i, rfl⟩ := ih h
      exact ⟨o, List.mem_cons_of_mem q ho, i, rfl⟩

end Numbered

namespace Tables

def book (t : Tables) (ps : List Row.ArrowProgress) (hs : List Row.NodeHistory) : Tables :=
  { t with progresses := t.progresses ++ ps, histories := t.histories ++ hs }

/-- Rows of progress are of resolved arrows, and carry the map of their arrow or rule. -/
structure Booked (t : Tables) : Prop where
  resolved : ∀ r ∈ t.progresses, r.resolved = true
  map_of_arrow : ∀ r ∈ t.progresses, ∀ a ∈ t.arrows, a.id = r.arrow → r.map = a.map
  map_of_rule : ∀ r ∈ t.histories, ∀ q ∈ t.rules, q.id = r.rule → r.map = q.map

variable {t : Tables} {scope other : Scope} {map : Id} {ps : List Row.ArrowProgress}
  {hs : List Row.NodeHistory}

@[simp] theorem graph_book (scope' : Scope) :
    ((t.book ps hs).snapshot map scope').graph = (t.snapshot map scope).graph := by
  have arrows : (t.book ps hs).arrows = t.arrows := rfl
  have rules : (t.book ps hs).rules = t.rules := rfl
  exact graph_snapshot_congr arrows rules scope scope'

theorem mem_arrows_book {i : Id} :
    i ∈ ((t.book ps hs).snapshot map scope).progress.arrows ↔
      i ∈ (t.snapshot map scope).progress.arrows ∨ ∃ r ∈ ps, t.Shows scope map i r := by
  rw [mem_arrows_snapshot, mem_arrows_snapshot]
  simp only [book, List.mem_append, or_and_right, exists_or]
  rfl

theorem mem_nodes_book {n : Id} :
    n ∈ ((t.book ps hs).snapshot map scope).progress.nodes ↔
      n ∈ (t.snapshot map scope).progress.nodes ∨ ∃ i, ∃ r ∈ hs, t.Records scope map n i r := by
  rw [mem_nodes_snapshot, mem_nodes_snapshot]
  simp only [book, List.mem_append, or_and_right, exists_or]
  rfl

theorem mem_rules_book {i : Id} :
    i ∈ ((t.book ps hs).snapshot map scope).progress.rules ↔
      i ∈ (t.snapshot map scope).progress.rules ∨ ∃ n, ∃ r ∈ hs, t.Records scope map n i r := by
  rw [mem_rules_snapshot, mem_rules_snapshot]
  simp only [book, List.mem_append, or_and_right, exists_or]
  rfl

/-- What is loaded after rows were added: the arrows and rules that the new rows show are resolved
and recorded. -/
theorem progress_book {ids : List Id} {rs : List Rule}
    (shown : ∀ i, (∃ r ∈ ps, t.Shows other map i r) ↔ i ∈ ids)
    (recorded : ∀ n i, (∃ r ∈ hs, t.Records other map n i r) ↔ ∃ q ∈ rs, q.node = n ∧ q.id = i) :
    ((t.book ps hs).snapshot map other).progress =
      ((t.snapshot map other).progress.resolve ids).record rs := by
  have arrows : ((t.book ps hs).snapshot map other).progress.arrows =
      (t.snapshot map other).progress.arrows.insertAll ids := by
    rw [IdSet.ext_iff]
    intro i
    rw [IdSet.mem_insertAll, mem_arrows_book, ← shown]
  have nodes : ((t.book ps hs).snapshot map other).progress.nodes =
      (t.snapshot map other).progress.nodes.insertAll (rs.map (·.node)) := by
    rw [IdSet.ext_iff]
    intro n
    have new : n ∈ rs.map (·.node) ↔ ∃ i, ∃ r ∈ hs, t.Records other map n i r := by
      simp only [recorded, List.mem_map]
      constructor
      · rintro ⟨q, hq, hn⟩
        exact ⟨q.id, q, hq, hn, rfl⟩
      · rintro ⟨_, q, hq, hn, -⟩
        exact ⟨q, hq, hn⟩
    rw [IdSet.mem_insertAll, mem_nodes_book, new]
  have rules : ((t.book ps hs).snapshot map other).progress.rules =
      (t.snapshot map other).progress.rules.insertAll (rs.map (·.id)) := by
    rw [IdSet.ext_iff]
    intro i
    have new : i ∈ rs.map (·.id) ↔ ∃ n, ∃ r ∈ hs, t.Records other map n i r := by
      simp only [recorded, List.mem_map]
      constructor
      · rintro ⟨q, hq, hi⟩
        exact ⟨q.node, q, hq, rfl, hi⟩
      · rintro ⟨_, q, hq, -, hi⟩
        exact ⟨q, hq, hi⟩
    rw [IdSet.mem_insertAll, mem_rules_book, new]
  unfold Progress.resolve Progress.record
  rw [← arrows, ← nodes, ← rules]

theorem snapshot_book_of_unseen (unshown : ∀ r ∈ ps, ∀ i, ¬ t.Shows other map i r)
    (unrecorded : ∀ r ∈ hs, ∀ n i, ¬ t.Records other map n i r) :
    (t.book ps hs).snapshot map other = t.snapshot map other := by
  have shown : ∀ i, (∃ r ∈ ps, t.Shows other map i r) ↔ i ∈ ([] : List Id) := by
    intro i
    simpa using fun r hr => unshown r hr i
  have recorded : ∀ n i, (∃ r ∈ hs, t.Records other map n i r) ↔
      ∃ q ∈ ([] : List Rule), q.node = n ∧ q.id = i := by
    intro n i
    simpa using fun r hr => unrecorded r hr n i
  exact Snapshot.ext_graph (graph_book other) (progress_book shown recorded)

structure OwnRows (scope : Scope) (map : Id) (ps : List Row.ArrowProgress)
    (hs : List Row.NodeHistory) : Prop where
  resolved : ∀ r ∈ ps, r.resolved = true ∧ r.map = map ∧ r.member = scope.member ∧
    r.seat = scope.seat
  completed : ∀ r ∈ hs, r.map = map ∧ r.member = scope.member ∧ r.seat = scope.seat

section OwnRows

variable (own : OwnRows scope map ps hs) (distinct : (t.seats.map (·.id)).Nodup)
  (seated : t.SeatedIn scope)
include own distinct seated

theorem OwnRows.snapshot_of_other {map' : Id} (h : map' ≠ map ∨ ¬ other.Shares scope) :
    (t.book ps hs).snapshot map' other = t.snapshot map' other := by
  have apart : ∀ {m : Id} {s : Option Id} {k : Id}, k = map ∧ m = scope.member ∧ s = scope.seat →
      t.visible other m s = true → k ≠ map' := by
    rintro _ _ _ ⟨rfl, rfl, rfl⟩ seen rfl
    rcases h with differ | unshared
    · exact differ rfl
    · exact unshared ((visible_iff_shares distinct seated other).mp seen)
  apply snapshot_book_of_unseen
  · rintro r hr i ⟨-, seen, hm, -⟩
    exact apart (own.resolved r hr).2 seen hm
  · rintro r hr n i ⟨seen, hm, -, -⟩
    exact apart (own.completed r hr) seen hm

/-- Every scope that shares progress sees the rows of a scope. -/
theorem OwnRows.progress_of_shares (shares : other.Shares scope) {rs : List Rule}
    (pairs : hs.map (fun r => (r.node, r.rule)) = rs.map fun q => (q.node, q.id)) :
    ((t.book ps hs).snapshot map other).progress =
      ((t.snapshot map other).progress.resolve (ps.map (·.arrow))).record rs := by
  have seen : ∀ {m : Id} {s : Option Id}, m = scope.member → s = scope.seat →
      t.visible other m s = true := by
    rintro _ _ rfl rfl
    exact (visible_iff_shares distinct seated other).mpr shares
  apply progress_book
  · intro i
    rw [List.mem_map]
    refine exists_congr fun r => and_congr_right fun hr => ?_
    obtain ⟨done, hm, hmember, hseat⟩ := own.resolved r hr
    exact ⟨fun h => h.2.2.2, fun h => ⟨done, seen hmember hseat, hm, h⟩⟩
  · intro n i
    have listed : (∃ r ∈ hs, r.node = n ∧ r.rule = i) ↔ ∃ q ∈ rs, q.node = n ∧ q.id = i := by
      have := congrArg ((n, i) ∈ ·) pairs
      simpa using this
    rw [← listed]
    refine exists_congr fun r => and_congr_right fun hr => ?_
    obtain ⟨hm, hmember, hseat⟩ := own.completed r hr
    exact ⟨fun h => h.2.2, fun h => ⟨seen hmember hseat, hm, h⟩⟩

end OwnRows

theorem Booked.book (h : t.Booked) (resolved : ∀ r ∈ ps, r.resolved = true)
    (map_of_arrow : ∀ r ∈ ps, ∀ a ∈ t.arrows, a.id = r.arrow → r.map = a.map)
    (map_of_rule : ∀ r ∈ hs, ∀ q ∈ t.rules, q.id = r.rule → r.map = q.map) :
    (t.book ps hs).Booked where
  resolved r hr := (List.mem_append.mp hr).elim (h.resolved r) (resolved r)
  map_of_arrow r hr := (List.mem_append.mp hr).elim (h.map_of_arrow r) (map_of_arrow r)
  map_of_rule r hr := (List.mem_append.mp hr).elim (h.map_of_rule r) (map_of_rule r)

end Tables

end LearningMap
