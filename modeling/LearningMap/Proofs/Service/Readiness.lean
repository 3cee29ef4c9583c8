import LearningMap.Proofs.Service.Settlement
import LearningMap.Proofs.Store.Conflict

/-!
# When an acceptance goes through

What an acceptance stores never leads nowhere: its rows refer to the arrows, rules and nodes of a
lawful store, and to the member and the seat that act. Nor is the row of an open arrow passed over,
since a row in its way would be one that the scope sees. So an acceptance on a settled store only
fails for the start node of the arrow, which has to be live, or for the lock of the scope.
-/

namespace LearningMap

open Entity

/-- A scope whose member is stored, and whose seat is one of its play. -/
structure Tables.Present (t : Tables) (scope : Scope) : Prop where
  member : scope.member ∈ t.ids .members
  seated : t.SeatedIn scope

namespace Store

variable {s s' : Store} {scope : Scope}

namespace Lawful

variable {now : Timestamp} (h : s.Lawful) (present : s.tables.Present scope)
include h present

theorem dangling?_resolution {a : Row.Arrow} (ha : a ∈ s.tables.arrows) (i : Id) :
    dangling? s.tables (withId (⟨a.map, a.id, scope.member, scope.seat, now⟩ :
      ArrowResolution).toRow i) = none := by
  have table : s.LawfulAt Row.Arrow := h .arrows
  have map := dangling?_eq_none_iff.mp (table.referenced a ha) ⟨"map_id", .maps, a.map⟩
    (by simp [references])
  have arrow : a.id ∈ s.tables.ids .arrows := List.mem_map_of_mem ha
  rw [dangling?_eq_none_iff]
  simp only [references, ArrowResolution.toRow, withId, List.mem_append, List.mem_cons,
    List.not_mem_nil, or_false, Option.mem_toList, Option.map_eq_some_iff]
  rintro _ ((rfl | rfl | rfl) | ⟨seat, taken, rfl⟩)
  · exact map
  · exact arrow
  · exact present.member
  · exact present.seated.mem_seats taken

theorem dangling?_completion {q : Row.Rule} (hq : q ∈ s.tables.rules) (i : Id) :
    dangling? s.tables (withId (⟨q.map, q.node, q.id, scope.member, scope.seat, now⟩ :
      NodeCompletion).toRow i) = none := by
  have table : s.LawfulAt Row.Rule := h .rules
  have leads := dangling?_eq_none_iff.mp (table.referenced q hq)
  have map := leads ⟨"map_id", .maps, q.map⟩ (by simp [references])
  have node := leads ⟨"node_id", .nodes, q.node⟩ (by simp [references])
  have rule : q.id ∈ s.tables.ids .rules := List.mem_map_of_mem hq
  rw [dangling?_eq_none_iff]
  simp only [references, NodeCompletion.toRow, withId, List.mem_append, List.mem_cons,
    List.not_mem_nil, or_false, Option.mem_toList, Option.map_eq_some_iff]
  rintro _ ((rfl | rfl | rfl | rfl) | ⟨seat, taken, rfl⟩)
  · exact map
  · exact node
  · exact rule
  · exact present.member
  · exact present.seated.mem_seats taken

end Lawful

namespace Sound

variable (h : s.Sound) (present : s.tables.Present scope) (now : Timestamp)
include h present

theorem resolved_of_occupied {map arrow : Id} (occupied : Occupied s.tables.progresses
      (⟨map, arrow, scope.member, scope.seat, now⟩ : ArrowResolution).toRow) :
    s.tables.Resolved scope arrow := by
  obtain ⟨k, hk, o, ho, hk'⟩ := occupied
  obtain ⟨same_arrow, same_member, same_key⟩ := share_key_progress.mp ⟨k, hk', hk⟩
  have seen := h.visible_of_key present.seated (fun i => h.lawful.seat_of_progress ho) same_member
    same_key
  exact ⟨o, ho, h.booked.resolved o ho, seen, same_arrow⟩

theorem exists_storeResolved {a : Row.Arrow} (ha : a ∈ s.tables.arrows)
    (still_open : ¬ s.tables.Resolved scope a.id) :
    ∃ row s', (Action.storeResolved
      [⟨a.map, a.id, scope.member, scope.seat, now⟩]).Yields s [row] s' := by
  let new := (⟨a.map, a.id, scope.member, scope.seat, now⟩ : ArrowResolution).toRow
  have table : s.LawfulAt Row.ArrowProgress := h.lawful .progresses
  have referenced : ∀ r ∈ [new], ∀ i, dangling? s.tables (withId r i) = none := by
    intro r hr i
    rw [List.mem_singleton.mp hr]
    exact h.lawful.dangling?_resolution present ha i
  obtain ⟨added, s', done⟩ := Action.exists_insert_skip referenced
  rcases Action.yields_insert_singleton done with rfl | rfl
  · -- A row that is passed over would have been seen.
    obtain ⟨tables, -, occupied, -⟩ := Action.yields_insert_skip table.sound
      (fun r _ => List.cons_ne_nil _ _) done
    have same : s'.tables.progresses = s.tables.progresses := by
      rw [tables]
      simp [rows, setRows]
    have taken : Occupied s'.tables.progresses new := occupied new (List.mem_singleton_self new)
    rw [same] at taken
    exact absurd (h.resolved_of_occupied present now taken) still_open
  · exact ⟨_, s', done⟩

theorem exists_findOrResolve {a : Row.Arrow} (ha : a ∈ s.tables.arrows) :
    ∃ found s', (Action.findOrResolve now a.map a.id scope).Yields s found s' := by
  unfold Action.findOrResolve
  simp only [Action.yields_query_bind]
  cases hfound : s.tables.resolution? a.id scope with
  | some row => exact ⟨(row, false), s, rfl⟩
  | none =>
    have still_open : ¬ s.tables.Resolved scope a.id := fun resolved =>
      absurd (Tables.isSome_resolution?.mpr resolved) (hfound ▸ Bool.false_ne_true)
    obtain ⟨row, s', stored⟩ := h.exists_storeResolved present now ha still_open
    have headed : (Action.storeResolution now a.map a.id scope).Yields s (some row) s' :=
      Action.yields_bind.mpr ⟨[row], s', stored, rfl⟩
    exact ⟨(row, true), s', Action.yields_bind.mpr ⟨some row, s', headed, rfl⟩⟩

/-- The plan of a completion can be stored. -/
theorem exists_stored {map : Id} {run : Run} (ext : run.Extends (s.tables.snapshot map scope)) :
    ∃ ps s₁ hs s', (Action.storeResolved (Plan.ofRun run scope now).resolutions).Yields s ps s₁ ∧
      (Action.storeCompleted (Plan.ofRun run scope now).completions).Yields s₁ hs s' := by
  have resolutions : ∀ r ∈ (Plan.ofRun run scope now).resolutions.map (·.toRow), ∀ i,
      dangling? s.tables (withId r i) = none := by
    intro r hr i
    simp only [Plan.ofRun, List.map_map, List.mem_map] at hr
    obtain ⟨a, ha, rfl⟩ := hr
    obtain ⟨row, hrow, same_id, same_map, -⟩ := Tables.arrow_of_resolved ext ha
    simp only [Function.comp_apply, ← same_id, ← same_map]
    exact h.lawful.dangling?_resolution present hrow i
  obtain ⟨ps, s₁, resolved⟩ := Action.exists_insert_skip resolutions
  obtain ⟨-, tables₁, -⟩ := h.storeResolved present.seated ext resolved
  have lawful₁ : s₁.Lawful := h.lawful.insert resolved
  have present₁ : s₁.tables.Present scope := by
    rw [tables₁]
    exact ⟨present.member, present.seated⟩
  have completions : ∀ r ∈ (Plan.ofRun run scope now).completions.map (·.toRow), ∀ i,
      dangling? s₁.tables (withId r i) = none := by
    intro r hr i
    simp only [Plan.ofRun, List.map_map, List.mem_map] at hr
    obtain ⟨q, hq, rfl⟩ := hr
    obtain ⟨row, hrow, -, hmap, hid, heq⟩ :=
      (Tables.getElem?_rules_snapshot h.lawful.nodup_rules).mp (ext.rule q hq)
    have own : run.snapshot.map = row.map :=
      (Snapshot.map_eq_of_graph ext.graph_eq).trans (Tables.map_snapshot.trans hmap.symm)
    have stored : row ∈ s₁.tables.rules := by rwa [tables₁]
    simp only [Function.comp_apply, own, heq]
    exact lawful₁.dangling?_completion present₁ stored i
  obtain ⟨hs, s', completed⟩ := Action.exists_insert_skip completions
  exact ⟨ps, s₁, hs, s', resolved, completed⟩

theorem exists_completeStart {a : Row.Arrow} (live : (s.tables.node? a.start).isSome = true)
    (locks : ∃ key, scope.lockWord = .ok key) :
    ∃ c s', (Action.completeStart now a scope).Yields s c s' := by
  obtain ⟨start, hstart⟩ := Option.isSome_iff_exists.mp live
  have wf : (s.tables.snapshot start.map scope).WellFormed := h.wellFormed
  obtain ⟨ps, s₁, hs, s', resolved, completed⟩ :=
    h.exists_stored present now (Snapshot.run_extends wf [start.id])
  have one_map : ¬ 1 < (IdSet.ofList [start.map]).toList.length := by
    have size : (IdSet.ofList [start.map]).size ≤ 1 := Std.ExtTreeSet.size_ofList_le
    rw [Std.ExtTreeSet.length_toList]
    exact Nat.not_lt.mpr size
  let already := (hs.map (·.node)).filter (· ∈ (s.tables.snapshot start.map scope).progress.nodes)
  obtain ⟨c, done⟩ : ∃ c, (Action.completeNodes now scope.toActor [start]).Yields s c s' :=
    ⟨⟨ps, hs, .ofList already, _⟩, Action.yields_completeNodes_cons.mpr
      ⟨one_map, scope, scope.scope?_toActor, locks, s₁, resolved, completed, rfl, rfl⟩⟩
  unfold Action.completeStart
  simp only [Action.yields_query_bind, hstart]
  exact ⟨c, s', Action.yields_orRefuse_bind.mpr ⟨start, rfl, done⟩⟩

end Sound

/-- On a settled store, an arrow whose start node is live is accepted for a scope with a lock. -/
theorem Settled.exists_acceptArrow (h : s.Settled) (present : s.tables.Present scope)
    (now : Timestamp) {a : Row.Arrow} (ha : a ∈ s.tables.arrows)
    (live : (s.tables.node? a.start).isSome = true) (locks : ∃ key, scope.lockWord = .ok key) :
    ∃ r s', (Action.acceptArrow now a scope).Yields s r s' := by
  obtain ⟨⟨row, made⟩, s₁, found⟩ := h.sound.exists_findOrResolve present now ha
  have reached : s₁.Sound ∧ s₁.tables.Present scope ∧ (s₁.tables.node? a.start).isSome = true := by
    rcases Action.yields_findOrResolve found with ⟨-, rfl, -⟩ | ⟨-, -, stored⟩
    · exact ⟨h.sound, present, live⟩
    · obtain ⟨settled_but, tables, -⟩ := h.resolve present.seated ha stored
      refine ⟨settled_but.sound, ?_⟩
      rw [tables]
      exact ⟨⟨present.member, present.seated⟩, live⟩
  obtain ⟨sound₁, present₁, live₁⟩ := reached
  obtain ⟨c, s', completed⟩ := sound₁.exists_completeStart present₁ now live₁ locks
  refine ⟨⟨if made then some row else none, c⟩, s', ?_⟩
  unfold Action.acceptArrow
  refine Action.yields_bind.mpr ⟨(), s, Action.yields_lock.mpr ⟨locks, rfl⟩, ?_⟩
  refine Action.yields_bind.mpr ⟨(row, made), s₁, found, ?_⟩
  exact Action.yields_bind.mpr ⟨c, s', completed, rfl⟩

theorem lock_of_acceptArrow {now : Timestamp} {a : Row.Arrow} {r : Resolution}
    (done : (Action.acceptArrow now a scope).Yields s r s') : ∃ key, scope.lockWord = .ok key := by
  unfold Action.acceptArrow at done
  obtain ⟨_, locked, -⟩ := (Action.reads_lock scope).yields_bind.mp done
  exact (Action.yields_lock.mp locked).1

end Store

end LearningMap
