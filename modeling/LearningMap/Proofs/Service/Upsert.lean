import LearningMap.Proofs.Service.Readiness
import LearningMap.Proofs.Service.Reload

/-!
# The row of an arrow, found or made

The look-up for the row of an arrow goes by what a scope sees: a row of any seat of its play counts,
if it is resolved. The key that stands in the way of a new row goes by its arrow, member and seat, be
the row resolved or not. As a scope sees the rows of its own member and seat, only an unresolved row
can be in the way of a row that was not found. So a row is found, or one is made, or the call fails
and stores nothing; and what a call has found or made is found by every scope that shares progress.
-/

namespace LearningMap

open Entity

namespace Tables

/-- A row by which a scope sees an arrow as resolved. -/
def Resolves (t : Tables) (scope : Scope) (arrow : Id) (r : Row.ArrowProgress) : Prop :=
  r ∈ t.progresses ∧ r.resolved = true ∧ t.visible scope r.member r.seat = true ∧ r.arrow = arrow

/-- Some row, resolved or not, has the arrow, the member and the seat of a scope. -/
def SeatTaken (t : Tables) (scope : Scope) (arrow : Id) : Prop :=
  ∃ r ∈ t.progresses, r.arrow = arrow ∧ r.member = scope.member ∧ r.seat = scope.seat

/-- No seat has the identifier that stands for no seat in the keys of progress. -/
structure PositiveSeats (t : Tables) : Prop where
  seats : ∀ r ∈ t.seats, 0 < r.id
  progresses : ∀ r ∈ t.progresses, ∀ i ∈ r.seat, 0 < i

structure Known (t : Tables) (map arrow member : Id) : Prop where
  map : map ∈ t.ids .maps
  arrow : arrow ∈ t.ids .arrows
  member : member ∈ t.ids .members

variable {t : Tables} {scope : Scope} {map arrow : Id} {row : Row.ArrowProgress}

theorem resolution?_congr {other : Scope} (shares : other.Shares scope) :
    t.resolution? arrow other = t.resolution? arrow scope := by
  have same : t.visible other = t.visible scope := by
    funext member seat
    exact visible_congr shares member seat
  rw [resolution?, resolution?, resolvedRows, resolvedRows, same]

theorem first_of_resolution? (found : t.resolution? arrow scope = some row) :
    t.Resolves scope arrow row ∧ ∀ o, t.Resolves scope arrow o → row.id ≤ o.id := by
  have among : ∀ o, o ∈ (t.resolvedRows scope).filter (·.arrow == arrow) ↔
      t.Resolves scope arrow o := by
    intro o
    simp only [resolvedRows, List.mem_filter, Bool.and_eq_true, beq_iff_eq, Resolves, and_assoc]
  constructor
  · apply (among row).mp
    exact mem_byId.mp (List.mem_of_mem_head? found)
  · intro o ho
    exact id_le_of_head?_byId found o ((among o).mpr ho)

theorem occupied_iff_seatTaken (positive : t.PositiveSeats) (seated : t.SeatedIn scope)
    (same_arrow : row.arrow = arrow) (same_member : row.member = scope.member)
    (same_seat : row.seat = scope.seat) : Occupied t.progresses row ↔ t.SeatTaken scope arrow := by
  have own_positive : ∀ i, row.seat = some i → 0 < i := by
    intro i hi
    obtain ⟨r, hr, rfl⟩ := List.mem_map.mp (seated.mem_seats (same_seat ▸ hi))
    exact positive.seats r hr
  unfold SeatTaken
  rw [← same_arrow, ← same_member, ← same_seat]
  constructor
  · rintro ⟨k, hk, o, ho, hk'⟩
    obtain ⟨arrow, member, key⟩ := share_key_progress.mp ⟨k, hk', hk⟩
    exact ⟨o, ho, arrow, member, seatKey_inj (positive.progresses o ho) own_positive key⟩
  · rintro ⟨o, ho, arrow, member, seat⟩
    obtain ⟨k, hk, hk'⟩ := share_key_progress.mpr ⟨arrow, member, congrArg seatKey seat⟩
    exact ⟨k, hk', o, ho, hk⟩

theorem unresolved_of_seatTaken (seated : t.SeatedIn scope) (still_open : ¬ t.Resolved scope arrow)
    {r : Row.ArrowProgress} (hr : r ∈ t.progresses) (same_arrow : r.arrow = arrow)
    (same_member : r.member = scope.member) (same_seat : r.seat = scope.seat) :
    r.resolved = false := by
  apply Bool.eq_false_iff.mpr
  intro resolved
  apply still_open
  refine ⟨r, hr, resolved, ?_, same_arrow⟩
  rw [same_member, same_seat]
  exact visible_self seated

theorem dangling?_resolution_iff (seated : t.SeatedIn scope) (rows : List Row.ArrowProgress)
    (same_member : row.member = scope.member) (same_seat : row.seat = scope.seat) :
    dangling? (setRows t rows) row = none ↔ t.Known row.map row.arrow scope.member := by
  rw [dangling?_eq_none_iff, ← same_member]
  simp only [references, List.forall_mem_append, List.forall_mem_cons, Option.mem_toList,
    Option.map_eq_some_iff]
  constructor
  · rintro ⟨⟨map, arrow, member, -⟩, -⟩
    exact ⟨map, arrow, member⟩
  · intro known
    refine ⟨⟨known.map, known.arrow, known.member, by simp⟩, ?_⟩
    rintro _ ⟨seat, taken, rfl⟩
    exact seated.mem_seats (same_seat ▸ taken)

end Tables

def Store.nextProgress (s : Store) (now : Timestamp) (map arrow : Id) (scope : Scope) :
    Row.ArrowProgress :=
  ⟨s.last .progresses + 1, map, arrow, scope.member, scope.seat, true, some now, ⟨now, now⟩⟩

namespace Action

variable {s s' : Store} {scope : Scope} {map arrow : Id} {row : Row.ArrowProgress}

theorem findOrResolve_of_found (now : Timestamp) (map : Id)
    (found : s.tables.resolution? arrow scope = some row) :
    findOrResolve now map arrow scope s = (.ok (row, false), s) := by
  unfold findOrResolve
  apply yields_query_bind.mpr
  rw [found]
  rfl

section Missing

variable (now : Timestamp) (missing : ¬ s.tables.Resolved scope arrow)
include missing

theorem resolution?_eq_none : s.tables.resolution? arrow scope = none := by
  apply Option.not_isSome_iff_eq_none.mp
  rwa [Tables.isSome_resolution?]

theorem findOrResolve_of_stored
    (stored : (storeResolved [⟨map, arrow, scope.member, scope.seat, now⟩]).Yields s [row] s') :
    (findOrResolve now map arrow scope).Yields s (row, true) s' := by
  have headed : (storeResolution now map arrow scope).Yields s (some row) s' :=
    yields_bind.mpr ⟨[row], s', stored, rfl⟩
  unfold findOrResolve
  apply yields_query_bind.mpr
  rw [resolution?_eq_none missing]
  exact yields_bind.mpr ⟨some row, s', headed, rfl⟩

theorem findOrResolve_of_error {e : Failure}
    (failed : storeResolved [⟨map, arrow, scope.member, scope.seat, now⟩] s = (.error e, s')) :
    findOrResolve now map arrow scope s = (.error e, s') := by
  have headed : storeResolution now map arrow scope s = (.error e, s') := bind_of_error failed
  unfold findOrResolve
  rw [bind_of_ok (yields_query.mpr ⟨resolution?_eq_none missing, rfl⟩)]
  exact bind_of_error headed

/-- Where the new row is passed over, the arrow is looked up once more, and in vain. -/
theorem findOrResolve_of_skipped
    (skipped : (storeResolved [⟨map, arrow, scope.member, scope.seat, now⟩]).Yields s [] s')
    (same : s'.tables = s.tables) :
    findOrResolve now map arrow scope s = (.error (.database .rowNotFound), s') := by
  have headed : (storeResolution now map arrow scope).Yields s none s' :=
    yields_bind.mpr ⟨[], s', skipped, rfl⟩
  have again : s'.tables.resolution? arrow scope = none := by
    rw [same]
    exact resolution?_eq_none missing
  unfold findOrResolve
  rw [bind_of_ok (yields_query.mpr ⟨resolution?_eq_none missing, rfl⟩)]
  change (storeResolution now map arrow scope >>= _) s = _
  rw [bind_of_ok headed]
  change (query _ >>= _) s' = _
  rw [bind_of_ok (yields_query.mpr ⟨again, rfl⟩)]
  rfl

theorem findOrResolve_of_free (counted : ∀ o ∈ s.tables.progresses, o.id ≤ s.last .progresses)
    (seated : s.tables.SeatedIn scope)
    (free : ¬ Occupied s.tables.progresses (s.nextProgress now map arrow scope)) :
    (s.tables.Known map arrow scope.member →
      ∃ s', (findOrResolve now map arrow scope).Yields s
          (s.nextProgress now map arrow scope, true) s' ∧
        s'.tables = { s.tables with
          progresses := s.tables.progresses ++ [s.nextProgress now map arrow scope] }) ∧
    (¬ s.tables.Known map arrow scope.member →
      ∃ constraint s', findOrResolve now map arrow scope s =
          (.error (.database (.dangling constraint)), s') ∧ s'.tables = s.tables) := by
  let new := (⟨map, arrow, scope.member, scope.seat, now⟩ : ArrowResolution).toRow
  have vacant : ¬ Occupied (rows s.tables) new := free
  have leads : dangling? (setRows s.tables (rows s.tables ++ [s.nextProgress now map arrow scope]))
      (s.nextProgress now map arrow scope) = none ↔ s.tables.Known map arrow scope.member :=
    Tables.dangling?_resolution_iff seated _ rfl rfl
  constructor
  · intro known
    have stored : (storeResolved [⟨map, arrow, scope.member, scope.seat, now⟩]).Yields s
        [s.nextProgress now map arrow scope] _ := insert_of_free counted vacant (leads.mpr known)
    refine ⟨_, findOrResolve_of_stored now missing stored, ?_⟩
    rw [tables_of_storeResolved stored, Tables.book, List.append_nil]
  · intro unknown
    have dangling := fun none => unknown (leads.mp none)
    obtain ⟨constraint, dangling⟩ := Option.ne_none_iff_exists'.mp dangling
    obtain ⟨s', failed, same⟩ := insert_of_dangling counted vacant dangling
    exact ⟨constraint, s', findOrResolve_of_error now missing failed, same⟩

theorem findOrResolve_of_occupied
    (occupied : Occupied s.tables.progresses (s.nextProgress now map arrow scope)) :
    ∃ s', findOrResolve now map arrow scope s = (.error (.database .rowNotFound), s') ∧
      s'.tables = s.tables := by
  have all_occupied : ∀ r ∈ [(⟨map, arrow, scope.member, scope.seat, now⟩ :
      ArrowResolution).toRow], Occupied (rows s.tables) r := by
    intro r hr
    rw [List.mem_singleton.mp hr]
    exact occupied
  obtain ⟨last, skipped⟩ := insert_skip_of_occupied all_occupied
  have same : setRows s.tables (rows s.tables ++ ([] : List Row.ArrowProgress)) = s.tables := by
    simp [rows, setRows]
  exact ⟨_, findOrResolve_of_skipped now missing skipped same, same⟩

end Missing

theorem resolution?_of_stored {now : Timestamp} (seated : s.tables.SeatedIn scope)
    (missing : ¬ s.tables.Resolved scope arrow)
    (stored : (storeResolved [⟨map, arrow, scope.member, scope.seat, now⟩]).Yields s [row] s') :
    s'.tables.resolution? arrow scope = some row := by
  have tables := tables_of_storeResolved stored
  have made : row = s.nextProgress now map arrow scope := by
    rcases yields_insert_singleton stored with none | one
    · cases none
    · exact List.head_eq_of_cons_eq one
  have resolves : s'.tables.Resolves scope arrow row := by
    rw [tables, made]
    exact ⟨List.mem_append_right _ (List.mem_singleton_self _), rfl, Tables.visible_self seated, rfl⟩
  obtain ⟨first, found⟩ :=
    Option.isSome_iff_exists.mp (Tables.isSome_resolution?.mpr ⟨row, resolves⟩)
  obtain ⟨mem, done, seen, same_arrow⟩ := (Tables.first_of_resolution? found).1
  rw [tables] at mem seen
  rw [found]
  rcases List.mem_append.mp mem with old | new
  · exact absurd ⟨first, old, done, seen, same_arrow⟩ missing
  · exact congrArg some (List.mem_singleton.mp new)

theorem findOrResolve_again {made : Bool} {now : Timestamp} (seated : s.tables.SeatedIn scope)
    (done : (findOrResolve now map arrow scope).Yields s (row, made) s') {other : Scope}
    (shares : other.Shares scope) (now' : Timestamp) (map' : Id) :
    (findOrResolve now' map' arrow other).Yields s' (row, false) s' := by
  apply findOrResolve_of_found
  rw [Tables.resolution?_congr shares]
  rcases yields_findOrResolve done with ⟨rfl, rfl, resolved⟩ | ⟨rfl, missing, stored⟩
  · obtain ⟨first, found⟩ := Option.isSome_iff_exists.mp (Tables.isSome_resolution?.mpr resolved)
    have same := Yields.value_eq done (findOrResolve_of_found now map found)
    rw [found, ← (Prod.mk.inj same).1]
  · exact resolution?_of_stored seated missing stored

/-- The row of an arrow is found or made. A scope that sees the arrow as resolved gets the first row
that says so, and nothing is stored. If no such row is there, one is stored, unless it would refer to
something that is not there or an unresolved row of the same seat is in its way; then the call fails
and nothing is stored. Whatever row is given, all scopes that share progress find it afterwards. -/
theorem findOrResolve_upserts {s : Store} {scope : Scope}
    (sound : SoundRows s.tables.progresses (s.last .progresses))
    (positive : s.tables.PositiveSeats) (seated : s.tables.SeatedIn scope)
    (now : Timestamp) (map arrow : Id) :
    (s.tables.Resolved scope arrow →
      ∃ row, s.tables.Resolves scope arrow row ∧
        (∀ o, s.tables.Resolves scope arrow o → o = row ∨ row.id < o.id) ∧
        (findOrResolve now map arrow scope).Yields s (row, false) s) ∧
    (¬ s.tables.Resolved scope arrow → ¬ s.tables.SeatTaken scope arrow →
      (s.tables.Known map arrow scope.member →
        ∃ s', (findOrResolve now map arrow scope).Yields s
            (s.nextProgress now map arrow scope, true) s' ∧
          s'.tables = { s.tables with
            progresses := s.tables.progresses ++ [s.nextProgress now map arrow scope] }) ∧
      (¬ s.tables.Known map arrow scope.member →
        ∃ constraint s', findOrResolve now map arrow scope s =
            (.error (.database (.dangling constraint)), s') ∧ s'.tables = s.tables)) ∧
    (¬ s.tables.Resolved scope arrow → s.tables.SeatTaken scope arrow →
      (∀ r ∈ s.tables.progresses, r.arrow = arrow → r.member = scope.member →
        r.seat = scope.seat → r.resolved = false) ∧
      ∃ s', findOrResolve now map arrow scope s = (.error (.database .rowNotFound), s') ∧
        s'.tables = s.tables) ∧
    ∀ {row made s'}, (findOrResolve now map arrow scope).Yields s (row, made) s' →
      ∀ {other : Scope}, other.Shares scope → ∀ now' map',
        (findOrResolve now' map' arrow other).Yields s' (row, false) s' := by
  have taken : Occupied s.tables.progresses (s.nextProgress now map arrow scope) ↔
      s.tables.SeatTaken scope arrow :=
    Tables.occupied_iff_seatTaken positive seated rfl rfl rfl
  refine ⟨?found, ?made, ?barred, ?again⟩
  case found =>
    intro resolved
    obtain ⟨row, found⟩ := Option.isSome_iff_exists.mp (Tables.isSome_resolution?.mpr resolved)
    obtain ⟨resolves, least⟩ := Tables.first_of_resolution? found
    refine ⟨row, resolves, fun o ho => ?_, findOrResolve_of_found now map found⟩
    rcases Int.lt_or_eq_of_le (least o ho) with above | same
    · exact .inr above
    · exact .inl (List.inj_on_of_nodup_map sound.distinct ho.1 resolves.1 same.symm)
  case made =>
    intro missing free
    exact findOrResolve_of_free now missing sound.counted seated fun occupied =>
      free (taken.mp occupied)
  case barred =>
    intro missing blocked
    refine ⟨fun r hr => Tables.unresolved_of_seatTaken seated missing hr, ?_⟩
    exact findOrResolve_of_occupied now missing (taken.mpr blocked)
  case again =>
    intro row made s' done other shares
    exact findOrResolve_again seated done shares

end Action

/-- Two members with seats in one play, and three arrows into one rule. The first arrow was resolved
from the second seat and by the first member alone; of the second one there is a row of the first
seat that is not resolved. -/
def patchwork : Store where
  tables :=
    { members := [⟨1, "ada", none, true, default⟩, ⟨2, "ben", none, true, default⟩]
      maps := [⟨1, "Map", false, 1, none, default⟩]
      nodes := [⟨1, 1, "S", "", "", true, none, default⟩, ⟨2, 1, "T", "", "", true, none, default⟩]
      rules := [⟨1, 1, 2, "", none, default⟩]
      arrows :=
        [⟨1, 1, 1, 1, none, none, default⟩, ⟨2, 1, 1, 1, none, none, default⟩,
          ⟨3, 1, 1, 1, none, none, default⟩]
      plays := [⟨5, 1, "", 1, none, default⟩]
      seats :=
        [⟨1, 5, 1, "participant", false, default⟩, ⟨2, 5, 2, "participant", false, default⟩]
      progresses :=
        [⟨2, 1, 1, 2, some 2, true, some default, default⟩, ⟨1, 1, 1, 1, none, true, none, default⟩,
          ⟨3, 1, 2, 1, some 1, false, none, default⟩] }
  last := fun _ => 5

/-- From the first seat, the row of the second seat is found, the unresolved row bars the second arrow,
and for the third one a row is made that the second seat finds. -/
theorem findOrResolve_upserts_on_patchwork :
    SoundRows patchwork.tables.progresses (patchwork.last .progresses) ∧
      patchwork.tables.PositiveSeats ∧ patchwork.tables.SeatedIn (.seated 1 1 5) ∧
      (∃ row, patchwork.tables.Resolves (.seated 1 1 5) 1 row ∧
        (Action.findOrResolve default 1 1 (.seated 1 1 5)).Yields patchwork (row, false)
          patchwork) ∧
      (∃ s', Action.findOrResolve default 1 2 (.seated 1 1 5) patchwork =
        (.error (.database .rowNotFound), s') ∧ s'.tables = patchwork.tables) ∧
      ∃ row s', (Action.findOrResolve default 1 3 (.seated 1 1 5)).Yields patchwork (row, true) s' ∧
        (Action.findOrResolve default 1 3 (.seated 2 2 5)).Yields s' (row, false) s' := by
  have sound : SoundRows patchwork.tables.progresses (patchwork.last .progresses) := by decide
  have positive : patchwork.tables.PositiveSeats := ⟨by decide, by decide⟩
  have seated : patchwork.tables.SeatedIn (.seated 1 1 5) := by
    rintro _ _ ⟨⟩ ⟨⟩
    decide
  have upserts := Action.findOrResolve_upserts sound positive seated default 1
  refine ⟨sound, positive, seated, ?found, ?barred, ?made⟩
  case found =>
    obtain ⟨row, resolves, -, found⟩ := (upserts 1).1 (by unfold Tables.Resolved; decide)
    exact ⟨row, resolves, found⟩
  case barred =>
    have missing : ¬ patchwork.tables.Resolved (.seated 1 1 5) 2 := by unfold Tables.Resolved; decide
    have taken : patchwork.tables.SeatTaken (.seated 1 1 5) 2 := by unfold Tables.SeatTaken; decide
    exact ((upserts 2).2.2.1 missing taken).2
  case made =>
    have missing : ¬ patchwork.tables.Resolved (.seated 1 1 5) 3 := by unfold Tables.Resolved; decide
    have free : ¬ patchwork.tables.SeatTaken (.seated 1 1 5) 3 := by unfold Tables.SeatTaken; decide
    have known : patchwork.tables.Known 1 3 1 := ⟨by decide, by decide, by decide⟩
    obtain ⟨s', made, -⟩ := ((upserts 3).2.1 missing free).1 known
    exact ⟨_, s', made, (upserts 3).2.2.2 made (Scope.shares_seated.mpr rfl) default 1⟩

/-- A member alone and a seat with the same lock key make a row each. A member that does not exist
gets none. -/
theorem lock_key_alone_does_not_find :
    (SoundRows sharedKey.tables.progresses (sharedKey.last .progresses) ∧
      sharedKey.tables.PositiveSeats ∧ sharedKey.tables.SeatedIn (.solo (-5)) ∧
      (Scope.seated 1 1 5).lockKey = (Scope.solo (-5)).lockKey ∧
      ∃ row s', (Action.findOrResolve default 1 1 (.solo (-5))).Yields sharedKey (row, true) s' ∧
        ∃ row' s'', (Action.findOrResolve default 1 1 (.seated 1 1 5)).Yields s' (row', true) s'' ∧
          s''.tables ≠ s'.tables) ∧
    sharedKey.tables.SeatedIn (.solo 9) ∧ ¬ sharedKey.tables.Resolved (.solo 9) 1 ∧
      ¬ sharedKey.tables.SeatTaken (.solo 9) 1 ∧
      ∀ row s', ¬ (Action.findOrResolve default 1 1 (.solo 9)).Yields sharedKey (row, true) s' := by
  constructor
  case left =>
    have sound : SoundRows sharedKey.tables.progresses (sharedKey.last .progresses) := by decide
    refine ⟨sound, ⟨by decide, by decide⟩, Tables.seatedIn_solo _ _, rfl, ?_⟩
    have made : (Action.findOrResolve default 1 1 (.solo (-5)) sharedKey).1.map Prod.snd =
        .ok true := by cbv
    have made_again : (Action.findOrResolve default 1 1 (.seated 1 1 5)
        (Action.findOrResolve default 1 1 (.solo (-5)) sharedKey).2).1.map Prod.snd =
          .ok true := by cbv
    obtain ⟨⟨row, _⟩, first, rfl⟩ := Action.exists_yields_of_map made
    obtain ⟨⟨row', _⟩, second, rfl⟩ := Action.exists_yields_of_map made_again
    refine ⟨row, _, first, row', _, second, ?_⟩
    intro same
    have counts := congrArg (·.progresses.length) same
    cbv at counts
  case right =>
    refine ⟨Tables.seatedIn_solo _ _, by unfold Tables.Resolved; decide,
      by unfold Tables.SeatTaken; decide, ?_⟩
    intro row s' done
    have failed : (Action.findOrResolve default 1 1 (.solo 9) sharedKey).1.isOk = false := by cbv
    rw [done] at failed
    cases failed

end LearningMap
