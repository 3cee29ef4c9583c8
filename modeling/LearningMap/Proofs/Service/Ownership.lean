import LearningMap.Proofs.Service.Effect

/-!
# Whose rows they are

An answer is stored for the member who submits it, on a seat that was looked up for this member. Rows
of progress are stored for the member and the seat of an answer and on its map, whoever reviews the
answer. So rows on seats of their members, in plays of their maps, are only followed by such rows.
-/

namespace LearningMap

namespace Tables

/-- The seat of a row, if it has one, is a seat of the member of the row, in a play of its map. -/
def Owned (t : Tables) (map member : Id) (seat : Option Id) : Prop :=
  ∀ i, seat = some i → ∃ r ∈ t.seats, r.id = i ∧ r.member = member ∧
    ∃ p ∈ t.plays, p.id = r.play ∧ p.map = map

/-- An answer is on a seat of its member, and on the map of its question. The latter decides about the
map of what follows from the answer. -/
def OwnedAnswer (t : Tables) (a : Row.Answer) : Prop :=
  t.Owned a.map a.member a.seat ∧ ∃ q ∈ t.questions, q.id = a.question ∧ q.map = a.map

/-- All rows that members make are on seats of their own. -/
structure Attributed (t : Tables) : Prop where
  answers : ∀ a ∈ t.answers, t.OwnedAnswer a
  progresses : ∀ p ∈ t.progresses, t.Owned p.map p.member p.seat
  histories : ∀ h ∈ t.histories, t.Owned h.map h.member h.seat

variable {t t' : Tables}

theorem owned_none (t : Tables) (map member : Id) : t.Owned map member none := by
  rintro _ ⟨⟩

theorem play_of_seating? {id : Id} {found : Seating} (h : t.seating? id = some found) :
    ∃ p ∈ t.plays, p.id = found.seat.play ∧ p.deletedAt = none ∧ p.map = found.map := by
  unfold seating? at h
  simp only [bind, Option.bind_eq_some_iff, pure, Option.some.injEq] at h
  obtain ⟨seat, -, play, hplay, rfl⟩ := h
  have played := List.find?_some hplay
  rw [Bool.and_eq_true, beq_iff_eq, Option.isNone_iff_eq_none] at played
  exact ⟨play, List.mem_of_find?_eq_some hplay, played.1, played.2, rfl⟩

theorem owned_of_seating? {id : Id} {found : Seating} (h : t.seating? id = some found) :
    t.Owned found.map found.seat.member (some found.seat.id) := by
  rintro _ ⟨⟩
  obtain ⟨p, hp, played, -, on_map⟩ := play_of_seating? h
  exact ⟨found.seat, (mem_of_seating? h).1, rfl, rfl, p, hp, played, on_map⟩

theorem attributed_of_no_rows (no_answer : t.answers = []) (no_progress : t.progresses = [])
    (no_history : t.histories = []) : t.Attributed := by
  refine ⟨?_, ?_, ?_⟩ <;> simp [no_answer, no_progress, no_history]

namespace Gains

variable (h : t.Gains t')
include h

theorem consistent (consistent : t.MapConsistent) : t'.MapConsistent := by
  obtain ⟨_, _, _, _, rfl⟩ := h
  exact ⟨consistent.start, consistent.rule, consistent.target, consistent.question⟩

theorem owned {map member : Id} {seat : Option Id} (owned : t.Owned map member seat) :
    t'.Owned map member seat := by
  obtain ⟨_, _, _, _, rfl⟩ := h
  exact owned

theorem ownedAnswer {a : Row.Answer} (owned : t.OwnedAnswer a) : t'.OwnedAnswer a := by
  obtain ⟨_, _, _, _, rfl⟩ := h
  exact owned

end Gains

end Tables

namespace Store

variable {s s' : Store} {scope : Scope} {arrow : Row.Arrow}

theorem Lawful.ownRows_completeStart (h : s.Lawful) (consistent : s.tables.MapConsistent)
    (ha : arrow ∈ s.tables.arrows) {now : Timestamp} {c : Completion}
    (done : (Action.completeStart now arrow scope).Yields s c s') :
    Tables.OwnRows scope arrow.map c.resolved c.completed := by
  obtain ⟨start, one_map, -, done⟩ := completeNodes_of_completeStart consistent ha done
  obtain ⟨s₁, resolved, completed, -, -⟩ := Action.yields_completeNodes (List.cons_ne_nil start [])
    one_map (Scope.scope?_toActor scope) done
  rw [Snapshot.propagate_eq] at resolved completed
  have wf : (s.tables.snapshot arrow.map scope).WellFormed :=
    Tables.snapshot_wellFormed h.nodup_arrows
  have ext := Snapshot.run_extends wf ([start].map (·.id))
  constructor
  · intro p hp
    obtain ⟨_, given, i, rfl⟩ := (Action.tables_of_insert resolved).2 p hp
    simp only [Plan.ofRun, List.map_map, List.mem_map] at given
    obtain ⟨a, among, rfl⟩ := given
    obtain ⟨-, -, -, -, on_map⟩ := Tables.arrow_of_resolved ext among
    exact ⟨rfl, on_map, rfl, rfl⟩
  · intro q hq
    obtain ⟨_, given, i, rfl⟩ := (Action.tables_of_insert completed).2 q hq
    simp only [Plan.ofRun, List.map_map, List.mem_map] at given
    obtain ⟨r, -, rfl⟩ := given
    exact ⟨(Snapshot.map_eq_of_graph ext.graph_eq).trans Tables.map_snapshot, rfl, rfl⟩

theorem Lawful.ownRows_spreads (h : s.Lawful) (consistent : s.tables.MapConsistent)
    (ha : arrow ∈ s.tables.arrows) {r : Resolution} (spreads : r.Spreads s scope arrow s') :
    Tables.OwnRows scope arrow.map r.progresses r.completion.completed := by
  cases spreads with
  | again => exact ⟨by simp [Resolution.empty, Resolution.progresses, Completion.empty],
      by simp [Resolution.empty, Completion.empty]⟩
  | completes _ completed => exact h.ownRows_completeStart consistent ha completed
  | resolves _ stored => exact (row_of_storeResolved stored).1
  | unlocks _ stored completed =>
    obtain ⟨own, -⟩ := row_of_storeResolved stored
    have tables := Action.tables_of_storeResolved stored
    have later := (h.insert stored).ownRows_completeStart
      (by rw [tables]; exact consistent.book _ _) (by rw [tables]; exact ha) completed
    refine ⟨fun p hp => ?_, later.completed⟩
    rcases List.mem_cons.mp hp with rfl | found
    · exact own.resolved p List.mem_cons_self
    · exact later.resolved p found

end Store

namespace Call.Does

variable {s s' : Store} {call : Call} {scope : Scope} {a : Row.Answer} {r : Resolution}
  (does : call.Does s scope a r s')
include does

theorem ownedAnswer (attributed : s.tables.Attributed) : s.tables.OwnedAnswer a := by
  obtain ⟨t₁, writes, -⟩ := does.stored
  obtain ⟨member_eq, seat_eq⟩ := does.own
  have acting := does.acting
  cases writes with
  | @submit now member question sub q i seat text correct files a found made =>
    obtain ⟨q', found', acting⟩ := acting
    obtain rfl : q = q' := Option.some.inj (found.symm.trans found')
    have on_map : a.map = q.map := by rw [made]
    have asked : q.id = a.question := by rw [made, Tables.id_of_question? found]
    refine ⟨?_, q, List.mem_of_find?_eq_some found, asked, on_map.symm⟩
    rw [on_map, member_eq, seat_eq]
    rcases Action.yields_resolveScope acting with
      ⟨-, rfl⟩ | ⟨id, held, -, seating, own, -, same_map, rfl⟩
    · exact Tables.owned_none _ _ _
    · rw [← same_map, ← own]
      exact Tables.owned_of_seating? seating
  | @review now reviewer answer r feedback a₀ found =>
    -- A review changes neither the map, the member and the seat nor the question.
    exact attributed.answers a₀ (Tables.mem_of_answer? found).1

theorem rows_of_answer (lawful : s.Lawful) (consistent : s.tables.MapConsistent)
    (attributed : s.tables.Attributed) :
    (∀ p ∈ r.progresses, p.map = a.map ∧ p.member = a.member ∧ p.seat = a.seat) ∧
    ∀ h ∈ r.completion.completed, h.map = a.map ∧ h.member = a.member ∧ h.seat = a.seat := by
  obtain ⟨member_eq, seat_eq⟩ := does.own
  have owned := does.ownedAnswer attributed
  obtain ⟨s₁, same, -, follows⟩ := does.steps
  have consistent₁ := same.gains.consistent consistent
  obtain ⟨-, q, hq, hid, on_map⟩ := same.gains.ownedAnswer owned
  cases follows with
  | @spreads arrow r s' found correct done =>
    obtain ⟨ha, asks, -⟩ := Tables.mem_of_arrowOf? found
    have same_map : a.map = arrow.map := by
      rw [← on_map]
      exact consistent₁.question arrow ha q hq (hid ▸ asks)
    have own := (same.lawful lawful).ownRows_spreads consistent₁ ha done
    rw [same_map, member_eq, seat_eq]
    exact ⟨fun p hp => (own.resolved p hp).2, own.completed⟩
  | nothing => exact ⟨by simp [Resolution.empty, Resolution.progresses, Completion.empty],
      by simp [Resolution.empty, Completion.empty]⟩

theorem rows_eq :
    s'.tables.progresses = s.tables.progresses ++ r.progresses ∧
      s'.tables.histories = s.tables.histories ++ r.completion.completed := by
  obtain ⟨t₁, writes, stored⟩ := does.stored
  rw [stored.tables]
  cases writes with
  | submit => exact ⟨rfl, rfl⟩
  | review => exact ⟨rfl, rfl⟩

theorem attributed (lawful : s.Lawful) (consistent : s.tables.MapConsistent)
    (h : s.tables.Attributed) : s'.tables.Attributed := by
  have gains := does.gains
  have written := does.ownedAnswer h
  obtain ⟨resolved, completed⟩ := does.rows_of_answer lawful consistent h
  obtain ⟨progresses, histories⟩ := does.rows_eq
  obtain ⟨t₁, writes, stored⟩ := does.stored
  refine ⟨?answers, ?progresses, ?histories⟩
  case answers =>
    have answers : s'.tables.answers = t₁.answers := by rw [stored.tables]; rfl
    rw [answers]
    intro b hb
    apply gains.ownedAnswer
    cases writes with
    | submit found made =>
      rcases List.mem_append.mp hb with old | new
      · exact h.answers b old
      · rw [List.mem_singleton.mp new]
        exact written
    | review found =>
      obtain ⟨c, hc, rfl⟩ := List.mem_map.mp hb
      split
      · exact h.answers c hc
      · exact h.answers c hc
  case progresses =>
    rw [progresses]
    intro p hp
    apply gains.owned
    rcases List.mem_append.mp hp with old | new
    · exact h.progresses p old
    · obtain ⟨map, member, seat⟩ := resolved p new
      rw [map, member, seat]
      exact written.1
  case histories =>
    rw [histories]
    intro q hq
    apply gains.owned
    rcases List.mem_append.mp hq with old | new
    · exact h.histories q old
    · obtain ⟨map, member, seat⟩ := completed q new
      rw [map, member, seat]
      exact written.1

end Call.Does

namespace Store

/-- From no answers and no progress, any run of submissions and reviews makes rows on seats of their
members only, in plays of their maps. -/
theorem attributed_after {s : Store} (lawful : s.Lawful) (consistent : s.tables.MapConsistent)
    (attributed : s.tables.Attributed) (calls : List Call) :
    (s.after calls).Lawful ∧ (s.after calls).tables.MapConsistent ∧
      (s.after calls).tables.Attributed :=
  after_induction (P := fun t => t.MapConsistent ∧ t.Attributed) lawful ⟨consistent, attributed⟩
    (fun lawful ⟨consistent, attributed⟩ does =>
      ⟨does.gains.consistent consistent, does.attributed lawful consistent attributed⟩) calls

end Store

namespace Tables

/-- A seat cannot be taken by a member on a map. -/
inductive SeatBarred (t : Tables) (member map seat : Id) : Prop
  | unknown (nobody : ∀ r ∈ t.seats, r.id ≠ seat)
  | foreign {r : Row.Seat} (hr : r ∈ t.seats) (same : r.id = seat) (other : r.member ≠ member)
  | deactivated {r : Row.Seat} (hr : r ∈ t.seats) (same : r.id = seat) (idle : r.deactivated = true)
  | elsewhere {r : Row.Seat} {p : Row.Play} (hr : r ∈ t.seats) (same : r.id = seat)
      (hp : p ∈ t.plays) (played : p.id = r.play) (other : p.map ≠ map)
  | ended {r : Row.Seat} {p : Row.Play} (hr : r ∈ t.seats) (same : r.id = seat) (hp : p ∈ t.plays)
      (played : p.id = r.play) (deleted : p.deletedAt ≠ none)

theorem SeatBarred.not_seated {t : Tables} {member map seat : Id} {found : Seating}
    (barred : t.SeatBarred member map seat) (seats : (t.seats.map (·.id)).Nodup)
    (plays : (t.plays.map (·.id)).Nodup) (seating : t.seating? seat = some found)
    (own : found.seat.member = member) (active : ¬ found.seat.deactivated) : found.map ≠ map := by
  intro on_map
  obtain ⟨held, same_id⟩ := mem_of_seating? seating
  obtain ⟨play, hplay, played, live, same_map⟩ := play_of_seating? seating
  have same_seat : ∀ r ∈ t.seats, r.id = seat → r = found.seat := fun r hr same =>
    List.inj_on_of_nodup_map seats hr held (same.trans same_id.symm)
  have same_play : ∀ p ∈ t.plays, p.id = found.seat.play → p = play := fun p hp same =>
    List.inj_on_of_nodup_map plays hp hplay (same.trans played.symm)
  cases barred with
  | unknown nobody => exact nobody found.seat held same_id
  | foreign hr same other =>
    rw [same_seat _ hr same] at other
    exact other own
  | deactivated hr same idle =>
    rw [same_seat _ hr same] at idle
    exact active idle
  | elsewhere hr same hp played other =>
    rw [same_seat _ hr same] at played
    rw [same_play _ hp played] at other
    exact other (same_map.trans on_map)
  | ended hr same hp played deleted =>
    rw [same_seat _ hr same] at played
    rw [same_play _ hp played] at deleted
    exact deleted live

end Tables

namespace Action

variable {s : Store} {member : Id} {id : Id}

theorem resolveScope_of_barred (lawful : s.Lawful) {map : Id}
    (barred : s.tables.SeatBarred member map id) :
    ∃ e, resolveScope member map (some id) s = (.error e, s) := by
  rcases ran : resolveScope member map (some id) s with ⟨e | scope, s'⟩
  · obtain rfl := (reads_resolveScope member map (some id)).store_eq_of_error ran
    exact ⟨e, rfl⟩
  · obtain ⟨⟨⟩, -⟩ | ⟨_, found, ⟨⟩, seating, own, active, on_map, -⟩ := yields_resolveScope ran
    exact absurd on_map (barred.not_seated lawful.nodup_seats (lawful .plays).sound.distinct seating
      own active)

/-- A submission that names a barred seat is refused before anything is stored, and before a single
identifier is handed out. -/
theorem submit_of_barred (lawful : s.Lawful) {question : Id} {sub : Submission}
    (named : sub.seat = some id)
    (barred : ∀ q, s.tables.question? question = some q → s.tables.SeatBarred member q.map id)
    (now : Timestamp) : ∃ e, submit now member question sub s = (.error e, s) := by
  cases found : s.tables.question? question with
  | none =>
    unfold submit
    rw [bind_of_ok (yields_query.mpr ⟨found, rfl⟩)]
    exact ⟨.refused (.notFound "Question" question), bind_of_error rfl⟩
  | some q =>
    cases columns : QuestionRules.ofColumns q.bypass q.types q.strategy with
    | error cause =>
      unfold submit
      rw [bind_of_ok (yields_query.mpr ⟨found, rfl⟩), bind_of_ok (yields_orRefuse.mpr ⟨rfl, rfl⟩),
        columns]
      exact ⟨.refused cause, bind_of_error rfl⟩
    | ok rules =>
      obtain ⟨e, refused⟩ := resolveScope_of_barred lawful (barred q found)
      rw [← named] at refused
      exact ⟨e, submit_of_error_resolveScope found columns refused now⟩

end Action

end LearningMap
