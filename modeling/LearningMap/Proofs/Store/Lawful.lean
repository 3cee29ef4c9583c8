import LearningMap.Proofs.Store.Outcome
import LearningMap.Store.Direct
import Mathlib.Data.List.Nodup

/-!
# Lawful stores

A store is lawful when its rows keep what the schema promises: no two rows of a table share an
identifier or a key, every reference leads to a row, and no table has handed out less than the
identifiers of its rows. Insertions and updates keep a store lawful, whatever they are asked to
store, and so does an operation that is undone. The rows of an insertion that clash with nothing are
added as they are given, under consecutive identifiers (`numbered`).
-/

namespace LearningMap

open Entity

section Rows

variable {ρ : Type} [Entity ρ]

/-- Rows under consecutive identifiers, from the one after `last` on. -/
def numbered (last : Id) : List ρ → List ρ
  | [] => []
  | r :: rs => withId r (last + 1) :: numbered (last + 1) rs

/-- No two rows of a table share an identifier or a key, and none was handed out after `last`. -/
structure SoundRows (rows : List ρ) (last : Id) : Prop where
  distinct : (rows.map Entity.id).Nodup
  counted : ∀ r ∈ rows, Entity.id r ≤ last
  unique : rows.Pairwise fun a b => ∀ k ∈ keys a, k ∉ keys b

instance (rows : List ρ) (last : Id) : Decidable (SoundRows rows last) :=
  decidable_of_iff
    ((rows.map Entity.id).Nodup ∧ (∀ r ∈ rows, Entity.id r ≤ last) ∧
      rows.Pairwise fun a b => ∀ k ∈ keys a, k ∉ keys b)
    ⟨fun ⟨distinct, counted, unique⟩ => ⟨distinct, counted, unique⟩,
      fun h => ⟨h.distinct, h.counted, h.unique⟩⟩

theorem SoundRows.mono {rows : List ρ} {last last' : Id} (h : SoundRows rows last)
    (le : last ≤ last') : SoundRows rows last' :=
  { h with counted := fun r hr => Int.le_trans (h.counted r hr) le }

theorem clash?_eq_none_iff {rows : List ρ} {r : ρ} :
    clash? rows r = none ↔
      (∀ o ∈ rows, Entity.id o ≠ Entity.id r) ∧ ∀ k ∈ keys r, ∀ o ∈ rows, k ∉ keys o := by
  unfold clash?
  by_cases same_id : rows.any fun o => Entity.id o == Entity.id r
  · rw [if_pos same_id]
    obtain ⟨o, ho, hid⟩ := List.any_eq_true.mp same_id
    refine ⟨fun h => (nomatch h), fun h => absurd (by simpa using hid) (h.1 o ho)⟩
  · rw [if_neg same_id]
    have other_id : ∀ o ∈ rows, Entity.id o ≠ Entity.id r := fun o ho hid =>
      same_id (List.any_eq_true.mpr ⟨o, ho, by simpa using hid⟩)
    simp only [Option.map_eq_none_iff, List.find?_eq_none, List.any_eq_true, decide_eq_true_eq,
      not_exists, not_and]
    exact ⟨fun h => ⟨other_id, h⟩, fun h => h.2⟩

theorem dangling?_eq_none_iff {t : Tables} {r : ρ} :
    dangling? t r = none ↔ ∀ ref ∈ references r, ref.id ∈ t.ids ref.target := by
  simp [dangling?]

theorem dangling?_mono {t t' : Tables} {r : ρ} (grow : ∀ k, t.ids k ⊆ t'.ids k)
    (h : dangling? t r = none) : dangling? t' r = none := by
  rw [dangling?_eq_none_iff] at h ⊢
  exact fun ref href => grow _ (h ref href)

theorem map_id_map {rows : List ρ} {f : ρ → ρ} (id_eq : ∀ r, Entity.id (f r) = Entity.id r) :
    (rows.map f).map Entity.id = rows.map Entity.id := by
  rw [List.map_map]
  exact List.map_congr_left fun r _ => id_eq r

theorem SoundRows.map {rows : List ρ} {last : Id} (h : SoundRows rows last) {f : ρ → ρ}
    (id_eq : ∀ r, Entity.id (f r) = Entity.id r) (keys_eq : ∀ r, keys (f r) = keys r) :
    SoundRows (rows.map f) last where
  distinct := by
    rw [map_id_map id_eq]
    exact h.distinct
  counted r hr := by
    obtain ⟨o, ho, rfl⟩ := List.mem_map.mp hr
    rw [id_eq]
    exact h.counted o ho
  unique := by
    refine List.pairwise_map.mpr (h.unique.imp ?_)
    intro a b apart k hk
    rw [keys_eq] at hk ⊢
    exact apart k hk

end Rows

/-- The rows of a table are read and written in one place of the tables, and a new identifier
changes nothing else of a row. -/
class LawfulEntity (ρ : Type) [Entity ρ] [Columns ρ] : Prop where
  id_withId : ∀ (r : ρ) i, Entity.id (withId r i) = i
  keys_withId : ∀ (r : ρ) i, keys (withId r i) = keys r
  rows_setRows : ∀ t (rs : List ρ), rows (setRows t rs) = rs
  withRows_kind : ∀ p : (σ : Type) → [Entity σ] → [Columns σ] → Prop,
    (kind ρ).withRows p = p ρ
  rows_setRows_of_ne : ∀ t (rs : List ρ) (k : Kind), k ≠ kind ρ →
    k.withRows fun σ => (rows (setRows t rs) : List σ) = rows t

section Instances

instance : LawfulEntity Row.ArrowProgress where
  id_withId _ _ := rfl
  keys_withId _ _ := rfl
  rows_setRows _ _ := rfl
  withRows_kind _ := rfl
  rows_setRows_of_ne t rs k other := by cases k <;> first | rfl | exact absurd rfl other

instance : LawfulEntity Row.NodeHistory where
  id_withId _ _ := rfl
  keys_withId _ _ := rfl
  rows_setRows _ _ := rfl
  withRows_kind _ := rfl
  rows_setRows_of_ne t rs k other := by cases k <;> first | rfl | exact absurd rfl other

instance : LawfulEntity Row.Answer where
  id_withId _ _ := rfl
  keys_withId _ _ := rfl
  rows_setRows _ _ := rfl
  withRows_kind _ := rfl
  rows_setRows_of_ne t rs k other := by cases k <;> first | rfl | exact absurd rfl other

instance : LawfulEntity Row.AnswerFile where
  id_withId _ _ := rfl
  keys_withId _ _ := rfl
  rows_setRows _ _ := rfl
  withRows_kind _ := rfl
  rows_setRows_of_ne t rs k other := by cases k <;> first | rfl | exact absurd rfl other

end Instances

section AddRows

variable {ρ : Type} [Entity ρ] {onClash : OnClash} {stored added : List ρ} {last last' : Id}

/-- One step of an insertion: a row that clashes is refused or skipped, any other one is added under
the next identifier. -/
theorem addRows_cons (r : ρ) (rs : List ρ) :
    addRows onClash stored last (r :: rs) =
      match clash? stored (withId r (last + 1)), onClash with
      | some key, .fail => (.error (.duplicate key), last + 1)
      | some _, .skip => addRows onClash stored (last + 1) rs
      | none, _ =>
        ((addRows onClash (stored ++ [withId r (last + 1)]) (last + 1) rs).1.map
          (withId r (last + 1) :: ·),
        (addRows onClash (stored ++ [withId r (last + 1)]) (last + 1) rs).2) := by
  cases free : clash? stored (withId r (last + 1)) <;> cases onClash <;>
    simp only [addRows, free]

/-- Every row of an insertion takes one identifier, unless a clash ends it. -/
theorem le_snd_addRows (onClash : OnClash) (stored : List ρ) (last : Id) (rs : List ρ) :
    last ≤ (addRows onClash stored last rs).2 := by
  induction rs generalizing stored last with
  | nil => exact Int.le_refl last
  | cons r rs ih =>
    rw [addRows_cons]
    have next : last ≤ last + 1 := Int.le_add_one (Int.le_refl last)
    split
    · exact next
    · exact Int.le_trans next (ih _ _)
    · exact Int.le_trans next (ih _ _)

variable [Columns ρ] [LawfulEntity ρ]

theorem SoundRows.concat {r : ρ} (h : SoundRows stored last)
    (free : clash? stored (withId r (last + 1)) = none) :
    SoundRows (stored ++ [withId r (last + 1)]) (last + 1) := by
  obtain ⟨other_id, other_key⟩ := clash?_eq_none_iff.mp free
  refine ⟨?distinct, ?counted, ?unique⟩
  case distinct =>
    rw [List.map_append, List.nodup_append]
    refine ⟨h.distinct, by simp, ?_⟩
    intro i hi j hj
    obtain ⟨o, ho, rfl⟩ := List.mem_map.mp hi
    rw [List.map_singleton, List.mem_singleton] at hj
    exact hj ▸ other_id o ho
  case counted =>
    intro o ho
    rcases List.mem_append.mp ho with ho | ho
    · exact Int.le_add_one (h.counted o ho)
    · have own : Entity.id o = last + 1 := by
        rw [List.mem_singleton.mp ho, LawfulEntity.id_withId]
      exact Int.le_of_eq own
  case unique =>
    rw [List.pairwise_append]
    refine ⟨h.unique, List.pairwise_singleton _ _, ?_⟩
    intro a ha b hb k hk hk'
    rw [List.mem_singleton.mp hb] at hk'
    exact other_key k hk' a ha hk

theorem SoundRows.addRows {rs : List ρ} (h : SoundRows stored last)
    (ok : LearningMap.addRows onClash stored last rs = (.ok added, last')) :
    SoundRows (stored ++ added) last' := by
  induction rs generalizing stored last added with
  | nil =>
    cases ok
    simpa using h
  | cons r rs ih =>
    rw [addRows_cons] at ok
    cases free : clash? stored (withId r (last + 1)) with
    | some key =>
      rw [free] at ok
      cases onClash with
      | fail => cases ok
      | skip => exact ih (h.mono (Int.le_add_one (Int.le_refl last))) ok
    | none =>
      rw [free] at ok
      rcases hrest : LearningMap.addRows onClash (stored ++ [withId r (last + 1)]) (last + 1) rs with
        ⟨e | rest, last''⟩
      · rw [hrest] at ok
        cases ok
      · rw [hrest] at ok
        cases ok
        have sound := ih (h.concat free) hrest
        rwa [List.append_assoc, List.singleton_append] at sound

/-- Rows that share no key with stored rows or with each other are all added. -/
theorem addRows_eq_numbered (rs : List ρ) (counted : ∀ o ∈ stored, Entity.id o ≤ last)
    (free : ∀ r ∈ rs, ∀ k ∈ keys r, ∀ o ∈ stored, k ∉ keys o)
    (apart : rs.Pairwise fun a b => ∀ k ∈ keys a, k ∉ keys b) :
    addRows onClash stored last rs = (.ok (numbered last rs), last + rs.length) := by
  induction rs generalizing stored last with
  | nil => simp [LearningMap.addRows, numbered]
  | cons r rs ih =>
    obtain ⟨apart_head, apart_tail⟩ := List.pairwise_cons.mp apart
    have no_clash : clash? stored (withId r (last + 1)) = none := by
      refine clash?_eq_none_iff.mpr ⟨?_, ?_⟩
      · intro o ho hid
        have := counted o ho
        rw [hid, LawfulEntity.id_withId] at this
        exact absurd this (Int.not_le.mpr (Int.lt_succ last))
      · rw [LawfulEntity.keys_withId]
        exact free r List.mem_cons_self
    have counted' : ∀ o ∈ stored ++ [withId r (last + 1)], Entity.id o ≤ last + 1 := by
      intro o ho
      rcases List.mem_append.mp ho with ho | ho
      · exact Int.le_add_one (counted o ho)
      · have own : Entity.id o = last + 1 := by
          rw [List.mem_singleton.mp ho, LawfulEntity.id_withId]
        exact Int.le_of_eq own
    have free' : ∀ q ∈ rs, ∀ k ∈ keys q, ∀ o ∈ stored ++ [withId r (last + 1)], k ∉ keys o := by
      intro q hq k hk o ho
      rcases List.mem_append.mp ho with ho | ho
      · exact free q (List.mem_cons_of_mem r hq) k hk o ho
      · rw [List.mem_singleton.mp ho, LawfulEntity.keys_withId]
        exact fun hk' => apart_head q hq k hk' hk
    rw [addRows_cons, no_clash, ih counted' free' apart_tail]
    simp only [Except.map, numbered, List.length_cons, Prod.mk.injEq, true_and]
    rw [Int.add_assoc, Int.add_comm 1]
    rfl

end AddRows

theorem Kind.mem_all (k : Kind) : k ∈ Kind.all := by
  cases k <;> decide

namespace Store

/-- A table whose rows are sound and refer to rows that exist. -/
structure LawfulAt (ρ : Type) [Entity ρ] (s : Store) : Prop where
  sound : SoundRows (rows s.tables : List ρ) (s.last (kind ρ))
  referenced : ∀ r ∈ (rows s.tables : List ρ), dangling? s.tables r = none

/-- A store that keeps what the schema promises of every table. -/
def Lawful (s : Store) : Prop := ∀ k : Kind, k.withRows fun ρ => s.LawfulAt ρ

instance (ρ : Type) [Entity ρ] (s : Store) : Decidable (s.LawfulAt ρ) :=
  decidable_of_iff
    (SoundRows (rows s.tables : List ρ) (s.last (kind ρ)) ∧
      ∀ r ∈ (rows s.tables : List ρ), dangling? s.tables r = none)
    ⟨fun ⟨sound, referenced⟩ => ⟨sound, referenced⟩, fun h => ⟨h.sound, h.referenced⟩⟩

instance (s : Store) (k : Kind) : Decidable (k.withRows fun ρ => s.LawfulAt ρ) :=
  match k with
  | .members => inferInstanceAs (Decidable (s.LawfulAt Row.Member))
  | .maps => inferInstanceAs (Decidable (s.LawfulAt Row.Map))
  | .nodes => inferInstanceAs (Decidable (s.LawfulAt Row.Node))
  | .rules => inferInstanceAs (Decidable (s.LawfulAt Row.Rule))
  | .questions => inferInstanceAs (Decidable (s.LawfulAt Row.Question))
  | .acceptedAnswers => inferInstanceAs (Decidable (s.LawfulAt Row.AcceptedAnswer))
  | .arrows => inferInstanceAs (Decidable (s.LawfulAt Row.Arrow))
  | .plays => inferInstanceAs (Decidable (s.LawfulAt Row.Play))
  | .seats => inferInstanceAs (Decidable (s.LawfulAt Row.Seat))
  | .progresses => inferInstanceAs (Decidable (s.LawfulAt Row.ArrowProgress))
  | .histories => inferInstanceAs (Decidable (s.LawfulAt Row.NodeHistory))
  | .answers => inferInstanceAs (Decidable (s.LawfulAt Row.Answer))
  | .answerFiles => inferInstanceAs (Decidable (s.LawfulAt Row.AnswerFile))

instance (s : Store) : Decidable s.Lawful :=
  decidable_of_iff (∀ k ∈ Kind.all, k.withRows fun ρ => s.LawfulAt ρ)
    ⟨fun h k => h k (Kind.mem_all k), fun h k _ => h k⟩

end Store

theorem Tables.ids_eq_withRows (t : Tables) (k : Kind) :
    t.ids k = k.withRows fun ρ => (rows t : List ρ).map Entity.id := by
  cases k <;> rfl

theorem Store.LawfulAt.frame {ρ : Type} [Entity ρ] {s s' : Store} (h : s.LawfulAt ρ)
    (same : (rows s'.tables : List ρ) = rows s.tables) (last : s.last (kind ρ) ≤ s'.last (kind ρ))
    (grow : ∀ k, s.tables.ids k ⊆ s'.tables.ids k) : s'.LawfulAt ρ where
  sound := same ▸ h.sound.mono last
  referenced r hr := dangling?_mono grow (h.referenced r (same ▸ hr))

theorem Store.Lawful.mono {s s' : Store} (h : s.Lawful) (same : s'.tables = s.tables)
    (ahead : s.Ahead s') : s'.Lawful := by
  have grow : ∀ k, s.tables.ids k ⊆ s'.tables.ids k := by
    intro k
    rw [same]
    exact List.Subset.refl _
  intro k
  have table := h k
  cases k <;> exact Store.LawfulAt.frame table (by rw [same]) (ahead _) grow

section Table

variable {ρ : Type} [Entity ρ] [Columns ρ] [LawfulEntity ρ] {s s' : Store}

theorem Store.Lawful.at (h : s.Lawful) : s.LawfulAt ρ := by
  have table := h (kind ρ)
  rwa [LawfulEntity.withRows_kind] at table

theorem ids_setRows_of_ne (t : Tables) (rs : List ρ) {k : Kind} (other : k ≠ kind ρ) :
    (setRows t rs).ids k = t.ids k := by
  have same := LawfulEntity.rows_setRows_of_ne t rs k other
  rw [Tables.ids_eq_withRows, Tables.ids_eq_withRows]
  cases k <;> exact congrArg (List.map Entity.id) same

theorem ids_kind (t : Tables) : t.ids (kind ρ) = (rows t : List ρ).map Entity.id := by
  rw [Tables.ids_eq_withRows]
  have read : ∀ k : Kind, k.withRows fun σ =>
      (k.withRows fun τ => (rows t : List τ).map Entity.id) = (rows t : List σ).map Entity.id := by
    intro k
    cases k <;> rfl
  have own := read (kind ρ)
  rwa [LawfulEntity.withRows_kind] at own

theorem ids_subset_setRows (t : Tables) {new : List ρ}
    (kept : (rows t : List ρ).map Entity.id ⊆ new.map Entity.id) (k : Kind) :
    t.ids k ⊆ (setRows t new).ids k := by
  by_cases own : k = kind ρ
  · subst own
    rw [ids_kind, ids_kind, LawfulEntity.rows_setRows]
    exact kept
  · rw [ids_setRows_of_ne _ _ own]
    exact List.Subset.refl _

/-- A lawful store whose one table is replaced is lawful again if the new rows are sound, keep the
identifiers there were and refer to rows that exist. -/
theorem Store.Lawful.replace (h : s.Lawful) {new : List ρ} {last : Kind → Id}
    (le : ∀ k, s.last k ≤ last k) (sound : SoundRows new (last (kind ρ)))
    (kept : (rows s.tables : List ρ).map Entity.id ⊆ new.map Entity.id)
    (referenced : ∀ r ∈ new, dangling? (setRows s.tables new) r = none) :
    Store.Lawful ⟨setRows s.tables new, last⟩ := by
  intro k
  by_cases own : k = kind ρ
  · subst own
    rw [LawfulEntity.withRows_kind]
    exact ⟨(LawfulEntity.rows_setRows s.tables new).symm ▸ sound,
      (LawfulEntity.rows_setRows s.tables new).symm ▸ referenced⟩
  · have same := LawfulEntity.rows_setRows_of_ne s.tables new k own
    have table := h k
    cases k <;> exact Store.LawfulAt.frame table same (le _) (ids_subset_setRows _ kept)

end Table

namespace Action

variable {ρ : Type} [Entity ρ] {onClash : OnClash} {new added : List ρ} {s s' : Store}

theorem yields_insert :
    (insert onClash new).Yields s added s' ↔
      ∃ last, addRows onClash (rows s.tables) (s.last (kind ρ)) new = (.ok added, last) ∧
        (∀ r ∈ added, dangling? (setRows s.tables (rows s.tables ++ added)) r = none) ∧
        s' = ⟨setRows s.tables (rows s.tables ++ added),
          fun k => if k = kind ρ then last else s.last k⟩ := by
  unfold Yields insert
  rcases hadd : addRows onClash (rows s.tables) (s.last (kind ρ)) new with ⟨e | rs, last⟩
  · simp only [hadd]
    constructor
    · intro h
      cases h
    · rintro ⟨_, h, -⟩
      cases h
  · cases hdangling : rs.findSome? (dangling? (setRows s.tables (rows s.tables ++ rs))) with
    | some name =>
      obtain ⟨r, hr, hname⟩ := List.exists_of_findSome?_eq_some hdangling
      simp only [hadd, hdangling]
      constructor
      · intro h
        cases h
      · rintro ⟨_, h, referenced, -⟩
        cases h
        rw [referenced r hr] at hname
        cases hname
    | none =>
      simp only [hadd, hdangling]
      constructor
      · intro h
        cases h
        exact ⟨last, rfl, List.findSome?_eq_none_iff.mp hdangling, rfl⟩
      · rintro ⟨_, h, -, rfl⟩
        cases h
        rfl

/-- An insertion of one row adds it under the next identifier, or passes over it. -/
theorem yields_insert_singleton {row : ρ} (h : (insert onClash [row]).Yields s added s') :
    added = [] ∨ added = [withId row (s.last (kind ρ) + 1)] := by
  obtain ⟨last, hadd, -⟩ := yields_insert.mp h
  rw [addRows_cons] at hadd
  cases free : clash? (rows s.tables) (withId row (s.last (kind ρ) + 1)) with
  | some key =>
    rw [free] at hadd
    cases onClash with
    | fail => cases hadd
    | skip =>
      cases hadd
      exact .inl rfl
  | none =>
    rw [free] at hadd
    cases hadd
    exact .inr rfl

theorem yields_insertOne {row r : ρ} (h : (insertOne row).Yields s r s') :
    (insert .fail [row]).Yields s [r] s' ∧ r = withId row (s.last (kind ρ) + 1) := by
  unfold insertOne at h
  obtain ⟨added, s₁, inserted, rest⟩ := yields_bind.mp h
  rcases yields_insert_singleton inserted with rfl | rfl
  · exact absurd rest not_yields_reject
  · obtain ⟨rfl, rfl⟩ := yields_pure.mp rest
    exact ⟨inserted, rfl⟩

/-- What an update has done: nothing, or the row it found is changed and refers to rows that
exist. -/
theorem yields_update {id : Id} {change : ρ → ρ} {found : Option ρ}
    (h : (update id change).Yields s found s') :
    (found = none ∧ s' = s) ∨
      ∃ r ∈ (rows s.tables : List ρ), Entity.id r = id ∧ found = some (change r) ∧
        s' = { s with
          tables := setRows s.tables
            ((rows s.tables).map fun r => if Entity.id r == id then change r else r) } ∧
        dangling? s'.tables (change r) = none := by
  unfold Yields update at h
  cases hfind : (rows s.tables : List ρ).find? fun r => Entity.id r == id with
  | none =>
    simp only [hfind] at h
    cases h
    exact .inl ⟨rfl, rfl⟩
  | some r =>
    simp only [hfind] at h
    split at h
    · cases h
    · rename_i referenced
      cases h
      have hid : Entity.id r = id := by simpa using List.find?_some hfind
      exact .inr ⟨r, List.mem_of_find?_eq_some hfind, hid, rfl, rfl, referenced⟩

theorem insert_ahead (onClash : OnClash) (new : List ρ) :
    (insert onClash new).Respects Store.Ahead := by
  intro s k
  have taken := le_snd_addRows onClash (rows s.tables) (s.last (kind ρ)) new
  have passed : (insert onClash new s).2.last k =
      if k = kind ρ then (addRows onClash (rows s.tables) (s.last (kind ρ)) new).2 else s.last k := by
    unfold insert
    rcases hadd : addRows onClash (rows s.tables) (s.last (kind ρ)) new with ⟨e | rs, last⟩
    · simp only [hadd]
    · simp only [hadd]
      split <;> rfl
  rw [passed]
  split
  · rename_i own
    exact own ▸ taken
  · exact Int.le_refl _

theorem insert_tables (onClash : OnClash) (new : List ρ) (s : Store) :
    (insert onClash new s).2.tables = s.tables ∨
      ∃ rs : List ρ, (insert onClash new s).2.tables = setRows s.tables rs := by
  unfold insert
  rcases hadd : addRows onClash (rows s.tables) (s.last (kind ρ)) new with ⟨e | rs, last⟩
  · left
    simp only [hadd]
  · simp only [hadd]
    split
    · exact .inl rfl
    · exact .inr ⟨_, rfl⟩

theorem update_tables (id : Id) (change : ρ → ρ) (s : Store) :
    (update id change s).2.tables = s.tables ∨
      ∃ rs : List ρ, (update id change s).2.tables = setRows s.tables rs := by
  unfold update
  dsimp only
  split
  · exact .inl rfl
  · split
    · exact .inl rfl
    · exact .inr ⟨_, rfl⟩

theorem update_ahead (id : Id) (change : ρ → ρ) : (update id change).Respects Store.Ahead := by
  intro s k
  unfold update
  dsimp only
  split
  · exact Int.le_refl _
  · split <;> exact Int.le_refl _

end Action

namespace Store.Lawful

variable {ρ : Type} [Entity ρ] [Columns ρ] [LawfulEntity ρ] {s s' : Store}

theorem insert (h : s.Lawful) {onClash : OnClash} {new added : List ρ}
    (done : (Action.insert onClash new).Yields s added s') : s'.Lawful := by
  have le := (Action.insert_ahead onClash new).of_yields done
  obtain ⟨last, hadd, referenced, rfl⟩ := Action.yields_insert.mp done
  have table : s.LawfulAt ρ := h.at
  have kept : (rows s.tables : List ρ).map Entity.id ⊆
      ((rows s.tables ++ added : List ρ)).map Entity.id := by
    rw [List.map_append]
    exact List.subset_append_left _ _
  refine h.replace le ?sound kept ?referenced
  case sound =>
    rw [if_pos rfl]
    exact table.sound.addRows hadd
  case referenced =>
    intro r hr
    rcases List.mem_append.mp hr with hr | hr
    · exact dangling?_mono (ids_subset_setRows _ kept) (table.referenced r hr)
    · exact referenced r hr

/-- Rows that share no key with stored rows or with each other are inserted as they are, in order,
under the next identifiers. -/
theorem insert_free (h : s.Lawful) {onClash : OnClash} {new added : List ρ}
    (free : ∀ r ∈ new, ∀ k ∈ keys r, ∀ o ∈ (rows s.tables : List ρ), k ∉ keys o)
    (apart : new.Pairwise fun a b => ∀ k ∈ keys a, k ∉ keys b)
    (done : (Action.insert onClash new).Yields s added s') :
    added = numbered (s.last (kind ρ)) new ∧
      s'.tables = setRows s.tables (rows s.tables ++ added) ∧
      ∀ k, k ≠ kind ρ → s'.last k = s.last k := by
  obtain ⟨last, hadd, -, rfl⟩ := Action.yields_insert.mp done
  have table : s.LawfulAt ρ := h.at
  rw [addRows_eq_numbered new table.sound.counted free apart] at hadd
  cases hadd
  exact ⟨rfl, rfl, fun k other => if_neg other⟩

theorem update (h : s.Lawful) {id : Id} {change : ρ → ρ} {found : Option ρ}
    (id_change : ∀ r, Entity.id (change r) = Entity.id r)
    (keys_change : ∀ r, keys (change r) = keys r)
    (done : (Action.update id change).Yields s found s') : s'.Lawful := by
  rcases Action.yields_update done with ⟨-, rfl⟩ | ⟨r, hr, hid, -, rfl, referenced⟩
  · exact h
  · have table : s.LawfulAt ρ := h.at
    have id_eq : ∀ o : ρ, Entity.id (if Entity.id o == id then change o else o) = Entity.id o := by
      intro o
      split
      · exact id_change o
      · rfl
    have keys_eq : ∀ o : ρ, keys (if Entity.id o == id then change o else o) = keys o := by
      intro o
      split
      · exact keys_change o
      · rfl
    have kept : (rows s.tables : List ρ).map Entity.id ⊆
        ((rows s.tables : List ρ).map fun o => if Entity.id o == id then change o else o).map
          Entity.id := by
      rw [map_id_map id_eq]
      exact List.Subset.refl _
    refine h.replace (fun _ => Int.le_refl _) (table.sound.map id_eq keys_eq) kept ?referenced
    case referenced =>
      intro o ho
      obtain ⟨q, hq, rfl⟩ := List.mem_map.mp ho
      by_cases own : Entity.id q == id
      · have same : q = r :=
          List.inj_on_of_nodup_map table.sound.distinct hq hr ((beq_iff_eq.mp own).trans hid.symm)
        rw [if_pos own, same]
        exact referenced
      · rw [if_neg own]
        exact dangling?_mono (ids_subset_setRows _ kept) (table.referenced q hq)

end Store.Lawful

end LearningMap
