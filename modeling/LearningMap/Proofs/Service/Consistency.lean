import LearningMap.Proofs.Service.Effect
import LearningMap.Proofs.Service.View

/-!
# Answers and progress

An answer gets its verdict when it is submitted or in a review. Either way it counts as reviewed from
then on, and a correct one has resolved the arrow of its question. Resolved arrows stay resolved
whatever reviews decide later, and so no accepted answer is left without its arrow.
-/

namespace LearningMap

/-- The scope that an answer was submitted in: that of its member alone, or that of its seat in the
play of the seat. -/
inductive Row.Answer.SubmittedIn (t : Tables) (a : Row.Answer) : Scope → Prop
  | alone : a.seat = none → SubmittedIn t a (.solo a.member)
  | seated {r : Row.Seat} : r ∈ t.seats → a.seat = some r.id →
      SubmittedIn t a (.seated a.member r.id r.play)

namespace Row.Answer

variable {t t' : Tables} {a : Row.Answer} {scope : Scope}

theorem submittedIn_of_own (own : a.member = scope.member ∧ a.seat = scope.seat)
    (seated : t.SeatedIn scope) : a.SubmittedIn t scope := by
  obtain ⟨member, seat⟩ := own
  cases scope with
  | solo m =>
    change a.member = m at member
    rw [← member]
    exact .alone seat
  | seated m s p =>
    change a.member = m at member
    obtain ⟨r, hr, rfl, rfl⟩ := seated s p rfl rfl
    rw [← member]
    exact .seated hr seat

theorem SubmittedIn.unique (distinct : (t.seats.map (·.id)).Nodup) {other : Scope}
    (h : a.SubmittedIn t scope) (h' : a.SubmittedIn t other) : scope = other := by
  cases h with
  | alone none_held =>
    cases h' with
    | alone => rfl
    | seated hr held =>
      rw [none_held] at held
      cases held
  | seated hr held =>
    cases h' with
    | alone none_held =>
      rw [none_held] at held
      cases held
    | seated hq held' =>
      have same_id := Option.some.inj (held.symm.trans held')
      rw [List.inj_on_of_nodup_map distinct hr hq same_id]

theorem SubmittedIn.of_seats_eq (h : a.SubmittedIn t scope) (seats : t'.seats = t.seats) :
    a.SubmittedIn t' scope := by
  cases h with
  | alone none_held => exact .alone none_held
  | seated hr held => exact .seated (seats ▸ hr) held

/-- An answer without a verdict has not been reviewed and carries nothing that a review would leave.
A correct one has resolved the arrow of its question for the scope that it was submitted in. -/
structure Consistent (t : Tables) (a : Row.Answer) : Prop where
  undecided_iff : a.correct = none ↔ a.reviewedAt = none
  undecided : a.correct = none → a.feedback = none ∧ a.reviewer = none
  scope : ∃ scope, a.SubmittedIn t scope
  resolved : ∀ scope, a.SubmittedIn t scope → a.correct = some true →
    ∀ arrow, t.arrowOf? a.question = some arrow → t.Resolved scope arrow.id

theorem Consistent.of_gains (h : a.Consistent t) (gains : t.Gains t') : a.Consistent t' := by
  have arrows : t'.arrowOf? = t.arrowOf? := by
    obtain ⟨_, _, _, _, rfl⟩ := gains
    rfl
  have seats : t'.seats = t.seats := by
    obtain ⟨_, _, _, _, rfl⟩ := gains
    rfl
  refine ⟨h.undecided_iff, h.undecided, h.scope.imp fun scope hs => hs.of_seats_eq seats, ?_⟩
  intro scope submitted correct arrow found
  rw [arrows] at found
  exact gains.resolved (h.resolved scope (submitted.of_seats_eq seats.symm) correct arrow found)

theorem consistent_of_own (own : a.member = scope.member ∧ a.seat = scope.seat)
    (seated : t.SeatedIn scope) (distinct : (t.seats.map (·.id)).Nodup)
    (undecided_iff : a.correct = none ↔ a.reviewedAt = none)
    (undecided : a.correct = none → a.feedback = none ∧ a.reviewer = none)
    (resolved : a.correct = some true → ∀ arrow, t.arrowOf? a.question = some arrow →
      t.Resolved scope arrow.id) : a.Consistent t := by
  have submitted := submittedIn_of_own own seated
  refine ⟨undecided_iff, undecided, ⟨scope, submitted⟩, fun other again => ?_⟩
  rw [again.unique distinct submitted]
  exact resolved

end Row.Answer

namespace Resolution

variable {s s₁ s' : Store} {scope : Scope} {now : Timestamp} {arrow : Row.Arrow}

theorem resolved_of_storeResolved {row : Row.ArrowProgress} (seated : s.tables.SeatedIn scope)
    (stored : (Action.storeResolved
      [⟨arrow.map, arrow.id, scope.member, scope.seat, now⟩]).Yields s [row] s₁) :
    s₁.tables.Resolved scope arrow.id := by
  obtain ⟨own, same_arrow⟩ := Store.row_of_storeResolved stored
  obtain ⟨done, -, member, seat⟩ := own.resolved row List.mem_cons_self
  rw [Action.tables_of_storeResolved stored]
  refine ⟨row, List.mem_append_right _ (List.mem_singleton.mpr rfl), done, ?_, same_arrow⟩
  rw [member, seat]
  exact Tables.visible_self seated

theorem Spreads.resolved {r : Resolution} (spreads : r.Spreads s scope arrow s')
    (seated : s.tables.SeatedIn scope) : s'.tables.Resolved scope arrow.id := by
  cases spreads with
  | again resolved => exact resolved
  | completes resolved completed =>
    exact (Action.stored_completeStart completed).gains.resolved resolved
  | resolves _ stored => exact resolved_of_storeResolved seated stored
  | unlocks _ stored completed =>
    have resolved := resolved_of_storeResolved seated stored
    exact (Action.stored_completeStart completed).gains.resolved resolved

theorem Follows.resolved {a : Row.Answer} {r : Resolution} (follows : r.Follows s scope a s')
    (seated : s.tables.SeatedIn scope)
    (correct : a.correct = some true) (found : s.tables.arrowOf? a.question = some arrow) :
    s'.tables.Resolved scope arrow.id := by
  cases follows with
  | spreads found' _ done =>
    cases found.symm.trans found'
    exact done.resolved seated
  | nothing unresolving => exact absurd correct (unresolving arrow found)

end Resolution

theorem Call.Does.consistent {s s' : Store} {call : Call} {scope : Scope} {a : Row.Answer}
    {r : Resolution} (does : call.Does s scope a r s') (lawful : s.Lawful)
    (h : ∀ b ∈ s.tables.answers, b.Consistent s.tables) :
    ∀ b ∈ s'.tables.answers, b.Consistent s'.tables := by
  have lawful' := lawful.does does
  obtain ⟨s₁, same, writes, follows⟩ := does.steps
  have seated₁ := same.seatedIn does.seatedIn
  have kept : ∀ b ∈ s.tables.answers, b.Consistent s'.tables := fun b hb =>
    (h b hb).of_gains does.gains
  have same_arrow : s'.tables.arrowOf? = s₁.tables.arrowOf? := by
    rw [follows.stored.tables]
    rfl
  have seated' : s'.tables.SeatedIn scope := by
    rw [follows.stored.tables]
    exact seated₁
  have resolved : a.correct = some true → ∀ arrow, s'.tables.arrowOf? a.question = some arrow →
      s'.tables.Resolved scope arrow.id := by
    intro correct arrow found
    rw [same_arrow] at found
    exact follows.resolved seated₁ correct found
  have answers : s'.tables.answers = s₁.tables.answers := by
    rw [follows.stored.tables]
    rfl
  have written := Row.Answer.consistent_of_own does.own seated' lawful'.nodup_seats
  rw [answers]
  -- Two cases: an answer is added, or one of the stored answers is decided.
  generalize s₁.tables = t₁ at writes
  cases writes with
  | @submit now member question sub q i seat text correct files a found made =>
    intro b hb
    rcases List.mem_append.mp hb with old | new
    · exact kept b old
    · rw [List.mem_singleton.mp new]
      refine written ?_ ?_ resolved
      · rw [made]
        cases correct <;> simp
      · rw [made]
        rintro rfl
        exact ⟨rfl, rfl⟩
  | @review now reviewer answer r feedback a₀ found =>
    intro b hb
    obtain ⟨c, hc, rfl⟩ := List.mem_map.mp hb
    obtain ⟨ha₀, hid⟩ := Tables.mem_of_answer? found
    by_cases reviewed : c.id == answer
    · have distinct : (s.tables.answers.map (·.id)).Nodup := (lawful .answers).sound.distinct
      have same : c = a₀ :=
        List.inj_on_of_nodup_map distinct hc ha₀ ((beq_iff_eq.mp reviewed).trans hid.symm)
      rw [if_pos reviewed, same]
      apply written _ _ resolved
      · simp [Row.Answer.decided]
      · simp [Row.Answer.decided]
    · rw [if_neg reviewed]
      exact kept c hc

/-- Answers and progress stay consistent. After any run of submissions and reviews from no answers,
an answer has no verdict exactly as long as it has not been reviewed, and carries no feedback and no
reviewer then; a reviewer is found on decided answers only. It was submitted in some scope, and if it
is correct, that scope has resolved the live arrow of its question, of several the first. -/
theorem Store.answers_consistent_after {s : Store} (lawful : s.Lawful)
    (no_answer : s.tables.answers = []) (calls : List Call) :
    ∀ a ∈ (s.after calls).tables.answers,
      (a.correct = none ↔ a.reviewedAt = none) ∧
      (a.correct = none → a.feedback = none ∧ a.reviewer = none) ∧
      (a.reviewer ≠ none → a.correct ≠ none) ∧
      (∃ scope, a.SubmittedIn (s.after calls).tables scope) ∧
      ∀ scope, a.SubmittedIn (s.after calls).tables scope → a.correct = some true →
        ∀ arrow, (s.after calls).tables.arrowOf? a.question = some arrow →
          (s.after calls).tables.Resolved scope arrow.id := by
  have start : ∀ a ∈ s.tables.answers, a.Consistent s.tables := by simp [no_answer]
  have all := (after_induction (P := fun t => ∀ a ∈ t.answers, a.Consistent t) lawful start
    (fun lawful consistent does => does.consistent lawful consistent) calls).2
  intro a ha
  have consistent := all a ha
  refine ⟨consistent.undecided_iff, consistent.undecided, ?_, consistent.scope, consistent.resolved⟩
  intro reviewed pending
  exact reviewed (consistent.undecided pending).2

def disputeCalls : List Call :=
  [.submit default 1 1 ⟨none, [⟨"", ""⟩], some 1⟩, .review default 2 6 ⟨false, none⟩,
    .review default 2 6 ⟨true, none⟩]

def disputedAnswer : Row.Answer :=
  ⟨6, 1, 1, 1, some 1, "", some true, none, some 2, some default, default⟩

/-- The answer that is accepted in the end has resolved arrow 1 for the play. -/
theorem answers_consistent_in_dispute :
    lesson.Lawful ∧ lesson.tables.answers = [] ∧
      disputedAnswer ∈ (lesson.after disputeCalls).tables.answers ∧
      disputedAnswer.correct ≠ none ∧
      disputedAnswer.SubmittedIn (lesson.after disputeCalls).tables (.seated 1 1 5) ∧
      (lesson.after disputeCalls).tables.Resolved (.seated 1 1 5) 1 := by
  have lawful : lesson.Lawful := by decide
  have answers : (lesson.after disputeCalls).tables.answers = [disputedAnswer] := by cbv
  have seats : (lesson.after disputeCalls).tables.seats = lesson.tables.seats := by cbv
  have stored : disputedAnswer ∈ (lesson.after disputeCalls).tables.answers := by
    rw [answers]
    exact List.mem_singleton.mpr rfl
  have submitted : disputedAnswer.SubmittedIn (lesson.after disputeCalls).tables (.seated 1 1 5) := by
    have seat : ⟨1, 5, 1, "participant", false, default⟩ ∈
        (lesson.after disputeCalls).tables.seats := by
      rw [seats]
      exact List.mem_cons_self
    exact .seated seat rfl
  obtain ⟨-, -, decided, -, resolved⟩ :=
    Store.answers_consistent_after lawful rfl disputeCalls disputedAnswer stored
  have found : (lesson.after disputeCalls).tables.arrowOf? 1 =
      some ⟨1, 1, 1, 1, some 1, none, default⟩ := by cbv
  exact ⟨lawful, rfl, stored, decided (by decide), submitted, resolved _ submitted rfl _ found⟩

end LearningMap
