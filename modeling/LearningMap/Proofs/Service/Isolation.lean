import LearningMap.Proofs.Service.Footprint
import LearningMap.Proofs.Service.View

/-!
# Scopes apart

A call acts in one scope: that of the member who submits, or that of the answer which is reviewed,
whoever reviews it. What it stores carries the member and the seat of that scope, and so does the
answer that a review changes. Hence scopes with another lock key are told the same before and after,
while all scopes with the same lock key are told one thing.
-/

namespace LearningMap

section Filter

variable {α : Type} {p : α → Bool} {as : List α}

theorem filter_append_of_hidden {bs : List α} (hidden : ∀ b ∈ bs, p b = false) :
    (as ++ bs).filter p = as.filter p := by
  have none_left : bs.filter p = [] :=
    List.filter_eq_nil_iff.mpr fun b hb => Bool.eq_false_iff.mp (hidden b hb)
  rw [List.filter_append, none_left, List.append_nil]

theorem filter_map_of_hidden {f : α → α}
    (hidden : ∀ a ∈ as, f a = a ∨ p a = false ∧ p (f a) = false) :
    (as.map f).filter p = as.filter p := by
  induction as with
  | nil => rfl
  | cons a as ih =>
    have rest := ih fun b hb => hidden b (List.mem_cons_of_mem a hb)
    rcases hidden a List.mem_cons_self with same | ⟨before, after⟩
    · rw [List.map_cons, same, List.filter_cons, List.filter_cons, rest]
    · rw [List.map_cons, List.filter_cons_of_neg (by simp [after]),
        List.filter_cons_of_neg (by simp [before]), rest]

end Filter

/-- All that the queries for progress tell a scope, of every map and every list of questions. -/
structure Outlook where
  resolved : Id → IdSet
  pairs : Id → List (Id × Id)
  nodes : Id → IdSet
  solved : List Id → IdSet

def Tables.outlook (t : Tables) (scope : Scope) : Outlook where
  resolved map := t.resolvedArrows map scope
  pairs map := t.completedPairs map scope
  nodes map := t.completedNodes map scope
  solved questions := t.solved questions scope

theorem Word.neg_eq_ok {n : Int} (positive : 0 < n) (fits : Id.fits n = true) :
    Word.neg n = .ok (-n) := by
  rw [Id.fits_iff] at fits
  apply hold_eq_ok_iff.mpr
  rw [Id.fits_iff]
  omega

namespace Scope

/-- A member with a positive identifier, on a play with a positive one if there is a play. -/
structure Positive (scope : Scope) : Prop where
  member : 0 < scope.member
  play : ∀ p, scope.play = some p → 0 < p

theorem Positive.isSome_play_iff {scope : Scope} (h : scope.Positive) :
    scope.play.isSome = true ↔ 0 < scope.lockKey := by
  cases scope with
  | solo m =>
    have negative : -m < 0 := Int.neg_neg_of_pos h.member
    refine ⟨fun on_play => ?_, fun positive => ?_⟩
    · cases on_play
    · exact absurd positive (Int.not_lt.mpr (Int.le_of_lt negative))
  | seated m s p => exact ⟨fun _ => h.play p rfl, fun _ => rfl⟩

theorem Positive.shares_of_lockKey_eq {a b : Scope} (ha : a.Positive) (hb : b.Positive)
    (same : a.lockKey = b.lockKey) : a.Shares b := by
  refine ⟨same, Bool.eq_iff_iff.mpr ?_⟩
  rw [ha.isSome_play_iff, hb.isSome_play_iff, same]

theorem Positive.lockWord_eq {scope : Scope} (h : scope.Positive)
    (fits : Id.fits scope.member = true) : scope.lockWord = .ok scope.lockKey := by
  cases scope with
  | solo m => exact Word.neg_eq_ok h.member fits
  | seated m s p => rfl

end Scope

namespace Tables

variable {t t' : Tables} {scope other : Scope}

theorem outlook_congr (shares : other.Shares scope) : t.outlook other = t.outlook scope := by
  have same : t.visible other = t.visible scope := by
    funext member seat
    exact visible_congr shares member seat
  simp only [outlook, resolvedArrows, resolvedRows, completedPairs, completedNodes, completedRows,
    solved, same]

theorem outlook_eq_of_seen
    (progresses : t'.resolvedRows other = t.resolvedRows other)
    (histories : ∀ map, t'.completedRows map other = t.completedRows map other)
    (answers : ∀ questions, t'.solved questions other = t.solved questions other) :
    t'.outlook other = t.outlook other := by
  simp only [outlook, resolvedArrows, completedPairs, completedNodes, progresses, histories,
    answers]

theorem outlook_of_answers {answers : List Row.Answer} {files : List Row.AnswerFile}
    (seen : answers.filter (fun a => t.visible other a.member a.seat) =
      t.answers.filter fun a => t.visible other a.member a.seat) :
    Tables.outlook { t with answers, answerFiles := files } other = t.outlook other := by
  refine outlook_eq_of_seen rfl (fun map => rfl) fun questions => ?_
  have asked : ∀ as : List Row.Answer, as.filter (fun a => questions.contains a.question &&
      a.correct == some true && t.visible other a.member a.seat) =
        (as.filter fun a => t.visible other a.member a.seat).filter fun a =>
          questions.contains a.question && a.correct == some true := by
    intro as
    rw [List.filter_filter]
  change IdSet.ofList ((answers.filter _).map _) = IdSet.ofList ((t.answers.filter _).map _)
  exact congrArg (fun rows => IdSet.ofList (rows.map (·.question)))
    ((asked answers).trans ((congrArg _ seen).trans (asked t.answers).symm))

theorem visible_of_not_shares (distinct : (t.seats.map (·.id)).Nodup) (seated : t.SeatedIn scope)
    (apart : ¬ other.Shares scope) {member : Id} {seat : Option Id}
    (own : member = scope.member ∧ seat = scope.seat) : t.visible other member seat = false := by
  obtain ⟨rfl, rfl⟩ := own
  rw [Bool.eq_false_iff]
  exact fun seen => apart ((visible_iff_shares distinct seated other).mp seen)

end Tables

theorem Resolution.Stored.outlook_eq {r : Resolution} {scope other : Scope} {t t' : Tables}
    (stored : r.Stored scope t t') (distinct : (t.seats.map (·.id)).Nodup)
    (seated : t.SeatedIn scope) (apart : ¬ other.Shares scope) :
    t'.outlook other = t.outlook other := by
  have hidden := @Tables.visible_of_not_shares t scope other distinct seated apart
  obtain rfl := stored.tables
  refine Tables.outlook_eq_of_seen ?progresses ?histories fun questions => rfl
  case progresses =>
    refine filter_append_of_hidden fun p hp => ?_
    change (p.resolved && t.visible other p.member p.seat) = false
    rw [hidden (stored.resolved p hp).2, Bool.and_false]
  case histories =>
    intro map
    refine filter_append_of_hidden fun h hh => ?_
    change (h.map == map && t.visible other h.member h.seat) = false
    rw [hidden (stored.completed h hh), Bool.and_false]

namespace Action

variable {s s' : Store} {scope other : Scope} {now : Timestamp}
  (distinct : (s.tables.seats.map (·.id)).Nodup)
include distinct

theorem outlook_of_submit {member question : Id} {sub : Submission} {o : SubmissionOutcome}
    (done : (submit now member question sub).Yields s o s') (apart : ¬ other.Shares o.scope) :
    s'.tables.outlook other = s.tables.outlook other := by
  obtain ⟨acting, own, -, stored⟩ := stored_submit done
  have seated := acting.seatedIn
  refine (stored.outlook_eq distinct seated apart).trans (Tables.outlook_of_answers ?_)
  refine filter_append_of_hidden fun a ha => ?_
  rw [List.mem_singleton.mp ha]
  exact Tables.visible_of_not_shares distinct seated apart own

theorem outlook_of_review {reviewer answer : Id} {r : Review} {o : ReviewOutcome}
    (answers : (s.tables.answers.map (·.id)).Nodup)
    (done : (review now reviewer answer r).Yields s o s') (apart : ¬ other.Shares o.scope) :
    s'.tables.outlook other = s.tables.outlook other := by
  obtain ⟨acting, a, ha, own, change, kept, -, stored⟩ := stored_review done
  have seated := acting.seatedIn
  refine (stored.outlook_eq distinct seated apart).trans (Tables.outlook_of_answers ?_)
  refine filter_map_of_hidden fun b hb => ?_
  by_cases reviewed : b.id == answer
  · -- No other answer has the identifier, so the changed one is of the scope.
    obtain ⟨found, hid⟩ := Tables.mem_of_answer? ha
    have same : b = a :=
      List.inj_on_of_nodup_map answers hb found ((beq_iff_eq.mp reviewed).trans hid.symm)
    have hidden := Tables.visible_of_not_shares distinct seated apart own
    rw [if_pos reviewed, same, (kept a).2.1, (kept a).2.2]
    exact .inr ⟨hidden, hidden⟩
  · exact .inl (if_neg reviewed)

end Action

namespace Store

variable {s : Store} (seats : (s.tables.seats.map (·.id)).Nodup)
  (answers : (s.tables.answers.map (·.id)).Nodup)
include seats answers

/-- A call hides what it does from all scopes that do not share progress with the one it acts in. A
call that acts in none fails, and changes nothing. -/
theorem outlook_perform {call : Call} {other : Scope}
    (apart : ∀ scope, call.ActsIn s scope → ¬ other.Shares scope) :
    (call.perform s).tables.outlook other = s.tables.outlook other := by
  cases call with
  | submit now member question sub =>
    rcases done : Action.submit now member question sub s with ⟨e | o, s'⟩
    · simp only [Call.perform, done, Action.undoes_submit _ _ _ _ s e s' done]
    · simp only [Call.perform, done]
      exact Action.outlook_of_submit seats done (apart o.scope (Action.stored_submit done).1)
  | review now reviewer answer r =>
    rcases done : Action.review now reviewer answer r s with ⟨e | o, s'⟩
    · simp only [Call.perform, done, Action.undoes_review _ _ _ _ s e s' done]
    · simp only [Call.perform, done]
      exact Action.outlook_of_review seats answers done
        (apart o.scope (Action.stored_review done).1)

/-- Scopes do not interfere, and the seats of one play share everything. A call leaves alone what
the queries for progress tell every scope whose lock key is another one than that of the scope it
acts in. Scopes with that lock key are told what the acting scope is told, before and after, where
members and plays have positive identifiers. -/
theorem scopes_do_not_interfere (call : Call) :
    (∀ other : Scope, (∀ scope, call.ActsIn s scope → other.lockKey ≠ scope.lockKey) →
      (call.perform s).tables.outlook other = s.tables.outlook other) ∧
    ∀ scope other : Scope, call.ActsIn s scope → scope.Positive → other.Positive →
      other.lockKey = scope.lockKey →
        s.tables.outlook other = s.tables.outlook scope ∧
        (call.perform s).tables.outlook other = (call.perform s).tables.outlook scope := by
  constructor
  · intro other differ
    apply outlook_perform seats answers
    exact fun scope acting shares => differ scope acting shares.1
  · intro scope other _ positive other_positive same
    have shares := other_positive.shares_of_lockKey_eq positive same
    exact ⟨Tables.outlook_congr shares, Tables.outlook_congr shares⟩

end Store

def answerInPlay : Call := .submit default 1 1 ⟨none, [⟨"", ""⟩], some 1⟩

/-- What member 1 completes in play 5 is told to the seat of member 2, and not to member 1 alone. -/
theorem scopes_do_not_interfere_in_lesson :
    (lesson.tables.seats.map (·.id)).Nodup ∧ (lesson.tables.answers.map (·.id)).Nodup ∧
      answerInPlay.ActsIn lesson (.seated 1 1 5) ∧
      (answerInPlay.perform lesson).tables.outlook (.solo 1) = lesson.tables.outlook (.solo 1) ∧
      (answerInPlay.perform lesson).tables.outlook (.seated 2 2 5) =
        (answerInPlay.perform lesson).tables.outlook (.seated 1 1 5) ∧
      2 ∈ (answerInPlay.perform lesson).tables.completedNodes 1 (.seated 1 1 5) := by
  have seats : (lesson.tables.seats.map (·.id)).Nodup := by decide
  have answers : (lesson.tables.answers.map (·.id)).Nodup := by decide
  have acting : answerInPlay.ActsIn lesson (.seated 1 1 5) :=
    ⟨⟨1, 1, "Q", "", ["file"], "manual", true, none, none, none, default⟩, rfl, rfl⟩
  obtain ⟨apart, alike⟩ := Store.scopes_do_not_interfere seats answers answerInPlay
  refine ⟨seats, answers, acting, ?alone, ?seated, ?completed⟩
  case alone =>
    apply apart
    intro scope other
    rw [other.unique acting]
    decide
  case seated =>
    have first : Scope.Positive (.seated 1 1 5) := ⟨by decide, by decide⟩
    have second : Scope.Positive (.seated 2 2 5) := ⟨by decide, by decide⟩
    exact (alike _ _ acting first second rfl).2
  case completed => cbv

/-- A lock guards exactly the rows that its scope sees. Where members and plays have positive
identifiers, scopes with one key see the same rows, scopes with different keys see no row in common,
and what one scope stores is seen by the scopes with its key and by no other. The words that are
locked are these keys. -/
theorem Tables.lockKey_guards_rows {t : Tables} (distinct : (t.seats.map (·.id)).Nodup)
    {a b : Scope} (ha : a.Positive) (hb : b.Positive) :
    (a.lockKey = b.lockKey →
      ∀ member seat, t.visible a member seat = t.visible b member seat) ∧
    (a.lockKey ≠ b.lockKey →
      ∀ member seat, ¬ (t.visible a member seat = true ∧ t.visible b member seat = true)) ∧
    (t.SeatedIn b → (t.visible a b.member b.seat = true ↔ a.lockKey = b.lockKey)) ∧
    (Id.fits a.member = true → Id.fits b.member = true →
      (a.lockWord = b.lockWord ↔ a.lockKey = b.lockKey)) := by
  have shares : a.lockKey = b.lockKey ↔ a.Shares b := ⟨ha.shares_of_lockKey_eq hb, fun h => h.1⟩
  rw [shares]
  refine ⟨?same_rows, ?no_row, ?stored, ?locked⟩
  case same_rows =>
    intro same member seat
    exact visible_congr same member seat
  case no_row =>
    intro differ member seat seen
    apply differ
    rw [shares]
    exact shares_of_visible distinct seen.1 seen.2
  case stored =>
    intro seated
    exact visible_iff_shares distinct seated a
  case locked =>
    intro fits_a fits_b
    rw [ha.lockWord_eq fits_a, hb.lockWord_eq fits_b, Except.ok.injEq, shares]

/-- The seats of a play see the same rows, and none that a member alone sees. -/
theorem lockKey_guards_rows_in_lesson :
    (lesson.tables.seats.map (·.id)).Nodup ∧ Scope.Positive (.seated 1 1 5) ∧
      Scope.Positive (.seated 2 2 5) ∧ Scope.Positive (.solo 5) ∧
      (∀ member seat, lesson.tables.visible (.seated 1 1 5) member seat =
        lesson.tables.visible (.seated 2 2 5) member seat) ∧
      (∀ member seat, ¬ (lesson.tables.visible (.seated 1 1 5) member seat = true ∧
        lesson.tables.visible (.solo 5) member seat = true)) ∧
      lesson.tables.visible (.seated 1 1 5) 2 (some 2) = true := by
  have distinct : (lesson.tables.seats.map (·.id)).Nodup := by decide
  have first : Scope.Positive (.seated 1 1 5) := ⟨by decide, by decide⟩
  have second : Scope.Positive (.seated 2 2 5) := ⟨by decide, by decide⟩
  have alone : Scope.Positive (.solo 5) := ⟨by decide, by decide⟩
  have seated : lesson.tables.SeatedIn (.seated 2 2 5) := by
    intro s p hs hp
    cases hs
    cases hp
    decide
  have together := Tables.lockKey_guards_rows distinct first second
  have apart := Tables.lockKey_guards_rows distinct first alone
  refine ⟨distinct, first, second, alone, together.1 rfl, apart.2.1 (by decide), ?_⟩
  exact (together.2.2.1 seated).mpr rfl

end LearningMap
