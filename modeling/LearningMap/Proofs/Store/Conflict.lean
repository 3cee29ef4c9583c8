import LearningMap.Proofs.Store.Lawful

/-!
# Insertions that pass over rows

An insertion that skips clashing rows leaves every key of its rows taken: by the row that it added,
or by the one that was in the way. Hence a row with a key that an earlier insertion asked for is
never added again, whatever else it holds. This asks for no more than distinct identifiers and keys;
references may lead anywhere.
-/

namespace LearningMap

open Entity

section Rows

variable {ρ : Type} [Entity ρ]

/-- Some row has a key of a row that is to be stored. -/
def Occupied (stored : List ρ) (r : ρ) : Prop := ∃ k ∈ keys r, ∃ o ∈ stored, k ∈ keys o

theorem Occupied.mono {stored more : List ρ} {r : ρ} (h : Occupied stored r)
    (sub : stored ⊆ more) : Occupied more r := by
  obtain ⟨k, hk, o, ho, hk'⟩ := h
  exact ⟨k, hk, o, sub ho, hk'⟩

theorem Occupied.of_keys_eq {stored : List ρ} {r q : ρ} (h : Occupied stored r)
    (same : keys q = keys r) : Occupied stored q := by
  obtain ⟨k, hk, o, ho, hk'⟩ := h
  exact ⟨k, same ▸ hk, o, ho, hk'⟩

theorem exists_of_mem_addRows {onClash : OnClash} {stored added rs : List ρ} {last last' : Id}
    (ok : addRows onClash stored last rs = (.ok added, last')) :
    ∀ q ∈ added, ∃ r ∈ rs, ∃ i, q = withId r i := by
  induction rs generalizing stored last added with
  | nil =>
    cases ok
    simp
  | cons r rs ih =>
    rw [addRows_cons] at ok
    cases free : clash? stored (withId r (last + 1)) with
    | some key =>
      rw [free] at ok
      cases onClash with
      | fail => cases ok
      | skip =>
        intro q hq
        obtain ⟨o, ho, i, rfl⟩ := ih ok q hq
        exact ⟨o, List.mem_cons_of_mem r ho, i, rfl⟩
    | none =>
      rw [free] at ok
      rcases hrest : addRows onClash (stored ++ [withId r (last + 1)]) (last + 1) rs with
        ⟨e | rest, last''⟩
      · rw [hrest] at ok
        cases ok
      · rw [hrest] at ok
        cases ok
        intro q hq
        rcases List.mem_cons.mp hq with rfl | hq
        · exact ⟨r, List.mem_cons_self, _, rfl⟩
        · obtain ⟨o, ho, i, rfl⟩ := ih hrest q hq
          exact ⟨o, List.mem_cons_of_mem r ho, i, rfl⟩

theorem exists_addRows_skip (stored : List ρ) (last : Id) (rs : List ρ) :
    ∃ added last', addRows .skip stored last rs = (.ok added, last') := by
  induction rs generalizing stored last with
  | nil => exact ⟨[], last, rfl⟩
  | cons r rs ih =>
    rw [addRows_cons]
    cases clash? stored (withId r (last + 1)) with
    | some key => exact ih stored (last + 1)
    | none =>
      obtain ⟨added, last', ok⟩ := ih (stored ++ [withId r (last + 1)]) (last + 1)
      rw [ok]
      exact ⟨withId r (last + 1) :: added, last', rfl⟩

variable [Columns ρ] [LawfulEntity ρ] {stored added : List ρ} {last last' : Id}

theorem Occupied.withId {r : ρ} (h : Occupied stored r) (i : Id) :
    Occupied stored (Entity.withId r i) :=
  h.of_keys_eq (LawfulEntity.keys_withId r i)

theorem addRows_of_occupied (rs : List ρ) (occupied : ∀ r ∈ rs, Occupied stored r) :
    addRows .skip stored last rs = (.ok [], last + rs.length) := by
  induction rs generalizing last with
  | nil => simp [addRows]
  | cons r rs ih =>
    obtain ⟨k, hk, o, ho, hk'⟩ := (occupied r List.mem_cons_self).withId (last + 1)
    have clash : clash? stored (Entity.withId r (last + 1)) ≠ none := fun free =>
      (clash?_eq_none_iff.mp free).2 k hk o ho hk'
    obtain ⟨name, taken⟩ := Option.ne_none_iff_exists'.mp clash
    rw [addRows_cons, taken, ih fun q hq => occupied q (List.mem_cons_of_mem r hq)]
    simp only [List.length_cons, Prod.mk.injEq, true_and]
    rw [Int.add_assoc, Int.add_comm 1]
    rfl

theorem addRows_of_free {onClash : OnClash} {r : ρ} (counted : ∀ o ∈ stored, Entity.id o ≤ last)
    (free : ¬ Occupied stored r) :
    addRows onClash stored last [r] = (.ok [Entity.withId r (last + 1)], last + 1) := by
  apply addRows_eq_numbered [r] counted
  · intro q hq k hk o ho hk'
    rw [List.mem_singleton.mp hq] at hk
    exact free ⟨k, hk, o, ho, hk'⟩
  · exact List.pairwise_singleton _ r

/-- After an insertion, the keys of all its rows are occupied. New identifiers are above those of the
stored rows, so a row can only have been passed over for a key. -/
theorem occupied_of_addRows {rs : List ρ} (sound : SoundRows stored last)
    (keyed : ∀ r ∈ rs, keys r ≠ []) (ok : addRows .skip stored last rs = (.ok added, last')) :
    ∀ r ∈ rs, Occupied (stored ++ added) r := by
  induction rs generalizing stored last added with
  | nil => simp
  | cons r rs ih =>
    have keyed' : ∀ q ∈ rs, keys q ≠ [] := fun q hq => keyed q (List.mem_cons_of_mem r hq)
    rw [addRows_cons] at ok
    cases free : clash? stored (Entity.withId r (last + 1)) with
    | some key =>
      rw [free] at ok
      have taken : Occupied stored r := by
        by_contra vacant
        have no_clash : clash? stored (Entity.withId r (last + 1)) = none := by
          refine clash?_eq_none_iff.mpr ⟨?_, ?_⟩
          · intro o ho hid
            rw [LawfulEntity.id_withId] at hid
            exact absurd (sound.counted o ho) (hid ▸ Int.not_le.mpr (Int.lt_succ last))
          · intro k hk o ho hk'
            exact vacant ⟨k, LawfulEntity.keys_withId r (last + 1) ▸ hk, o, ho, hk'⟩
        rw [free] at no_clash
        cases no_clash
      intro q hq
      rcases List.mem_cons.mp hq with rfl | hq
      · exact taken.mono (List.subset_append_left _ _)
      · exact ih (sound.mono (Int.le_add_one (Int.le_refl last))) keyed' ok q hq
    | none =>
      rw [free] at ok
      rcases hrest : addRows .skip (stored ++ [Entity.withId r (last + 1)]) (last + 1) rs with
        ⟨e | rest, last''⟩
      · rw [hrest] at ok
        cases ok
      · rw [hrest] at ok
        cases ok
        intro q hq
        rcases List.mem_cons.mp hq with rfl | hq
        · obtain ⟨k, hk⟩ := List.exists_mem_of_ne_nil _ (keyed q List.mem_cons_self)
          refine ⟨k, hk, Entity.withId q (last + 1), by simp, ?_⟩
          rwa [LawfulEntity.keys_withId]
        · have rest_occupied := ih (sound.concat free) keyed' hrest q hq
          rwa [List.append_assoc, List.singleton_append] at rest_occupied

end Rows

namespace Store

/-- No two rows of a table share an identifier or a key, and no table has handed out less than the
identifiers of its rows. -/
def Keyed (s : Store) : Prop :=
  ∀ k : Kind, k.withRows fun ρ => SoundRows (rows s.tables : List ρ) (s.last (kind ρ))

theorem Lawful.keyed {s : Store} (h : s.Lawful) : s.Keyed := by
  intro k
  have table := h k
  cases k <;> exact table.sound

theorem Keyed.at {ρ : Type} [Entity ρ] [Columns ρ] [LawfulEntity ρ] {s : Store} (h : s.Keyed) :
    SoundRows (rows s.tables : List ρ) (s.last (kind ρ)) := by
  have table := h (kind ρ)
  rwa [LawfulEntity.withRows_kind] at table

end Store

namespace Action

variable {ρ : Type} [Entity ρ] [Columns ρ] [LawfulEntity ρ] {new added : List ρ} {s s' : Store}

/-- What an insertion that skips has done: rows were added that it was given, and every key that it
was asked for is occupied. -/
theorem yields_insert_skip (sound : SoundRows (rows s.tables : List ρ) (s.last (kind ρ)))
    (keyed : ∀ r ∈ new, keys r ≠ []) (done : (insert .skip new).Yields s added s') :
    s'.tables = setRows s.tables (rows s.tables ++ added) ∧
      (∀ q ∈ added, ∃ r ∈ new, ∃ i, q = withId r i) ∧
      (∀ r ∈ new, Occupied (rows s'.tables) r) ∧ ∀ k, k ≠ kind ρ → s'.last k = s.last k := by
  obtain ⟨last, hadd, -, rfl⟩ := yields_insert.mp done
  refine ⟨rfl, exists_of_mem_addRows hadd, ?_, fun k other => if_neg other⟩
  rw [LawfulEntity.rows_setRows]
  exact occupied_of_addRows sound keyed hadd

/-- An insertion that skips succeeds when the references of all its rows lead to rows. -/
theorem exists_insert_skip
    (referenced : ∀ r ∈ new, ∀ i, dangling? s.tables (withId r i) = none) :
    ∃ added s', (insert .skip new).Yields s added s' := by
  obtain ⟨added, last, ok⟩ := exists_addRows_skip (rows s.tables) (s.last (kind ρ)) new
  have kept : (rows s.tables : List ρ).map Entity.id ⊆ (rows s.tables ++ added).map Entity.id := by
    rw [List.map_append]
    exact List.subset_append_left _ _
  refine ⟨added, _, yields_insert.mpr ⟨last, ok, fun q hq => ?_, rfl⟩⟩
  obtain ⟨r, hr, i, rfl⟩ := exists_of_mem_addRows ok q hq
  exact dangling?_mono (ids_subset_setRows _ kept) (referenced r hr i)

theorem insert_skip_of_occupied (occupied : ∀ r ∈ new, Occupied (rows s.tables) r) :
    ∃ last, (insert .skip new).Yields s [] ⟨setRows s.tables (rows s.tables ++ ([] : List ρ)), last⟩ :=
  ⟨_, yields_insert.mpr ⟨_, addRows_of_occupied new occupied, by simp, rfl⟩⟩

section Free

variable {onClash : OnClash} {r : ρ}
  (counted : ∀ o ∈ (rows s.tables : List ρ), Entity.id o ≤ s.last (kind ρ))
  (free : ¬ Occupied (rows s.tables) r)
include counted free

theorem insert_of_free
    (referenced : dangling? (setRows s.tables (rows s.tables ++ [withId r (s.last (kind ρ) + 1)]))
      (withId r (s.last (kind ρ) + 1)) = none) :
    (insert onClash [r]).Yields s [withId r (s.last (kind ρ) + 1)]
      ⟨setRows s.tables (rows s.tables ++ [withId r (s.last (kind ρ) + 1)]),
        fun k => if k = kind ρ then s.last (kind ρ) + 1 else s.last k⟩ := by
  refine yields_insert.mpr ⟨_, addRows_of_free counted free, fun q hq => ?_, rfl⟩
  rwa [List.mem_singleton.mp hq]

theorem insert_of_dangling {name : String}
    (dangling : dangling? (setRows s.tables (rows s.tables ++ [withId r (s.last (kind ρ) + 1)]))
      (withId r (s.last (kind ρ) + 1)) = some name) :
    ∃ s', insert onClash [r] s = (.error (.database (.dangling name)), s') ∧
      s'.tables = s.tables := by
  unfold insert
  simp only [addRows_of_free counted free, List.findSome?_cons, dangling]
  exact ⟨_, rfl, rfl⟩

end Free

end Action

end LearningMap
