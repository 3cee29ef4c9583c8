import LearningMap.Proofs.Service.Footprint

/-!
# What one call does

A call that goes through writes one answer: a submission adds it, a review puts its decision into
it. If the answer is correct then, the arrow of its question is resolved for the scope that the call
acts in. That is all a call does, and a call that fails does nothing. What such steps keep, a run of
calls keeps; lawful stores stay lawful.
-/

namespace LearningMap

/-- What a call does to the answers. A submission adds its answer and the files of the answer, and a
review puts its decision into the answer that it names. -/
inductive Call.Writes (t : Tables) : Call → Row.Answer → Tables → Prop
  | submit {now : Timestamp} {member question : Id} {sub : Submission} {q : Row.Question} {i : Id}
      {seat : Option Id} {text : String} {correct : Option Bool} {files : List Row.AnswerFile}
      {a : Row.Answer} (found : t.question? question = some q)
      (made : a = ⟨i, q.map, question, member, seat, text, correct,
        (Verdict.ofCorrect correct).feedback q.onSuccess q.onFailure, none,
        if correct.isSome then some now else none, ⟨now, now⟩⟩) :
      Writes t (.submit now member question sub) a
        { t with answers := t.answers ++ [a], answerFiles := t.answerFiles ++ files }
  | review {now : Timestamp} {reviewer answer : Id} {r : Review} {feedback : Option String}
      {a : Row.Answer} (found : t.answer? answer = some a) :
      Writes t (.review now reviewer answer r) (a.decided now reviewer r.correct feedback)
        { t with answers := t.answers.map fun b =>
          if b.id == answer then b.decided now reviewer r.correct feedback else b }

/-- What comes of an answer: the arrow of its question is resolved if the answer is correct. -/
inductive Resolution.Follows (s : Store) (scope : Scope) (a : Row.Answer) : Resolution → Store → Prop
  | spreads {arrow : Row.Arrow} {r : Resolution} {s' : Store}
      (found : s.tables.arrowOf? a.question = some arrow) (correct : a.correct = some true)
      (done : r.Spreads s scope arrow s') : Follows s scope a r s'
  | nothing (unresolving : ∀ arrow, s.tables.arrowOf? a.question = some arrow →
      a.correct ≠ some true) : Follows s scope a .empty s

/-- What a call that goes through does: it writes an answer of the scope that it acts in, and then
what follows from that answer. -/
structure Call.Does (call : Call) (s : Store) (scope : Scope) (a : Row.Answer) (r : Resolution)
    (s' : Store) : Prop where
  acting : call.ActsIn s scope
  own : a.member = scope.member ∧ a.seat = scope.seat
  steps : ∃ s₁, s.SameProgress s₁ ∧ call.Writes s.tables a s₁.tables ∧ r.Follows s₁ scope a s'

namespace Action

variable {s s' : Store} {now : Timestamp}

theorem does_submit {member question : Id} {sub : Submission} {o : SubmissionOutcome}
    (done : (submit now member question sub).Yields s o s') :
    (Call.submit now member question sub).Does s o.scope o.answer o.resolution s' := by
  obtain ⟨q, text, correct, s₁, s₂, hq, acting, -, answered, filed, checked, resolving⟩ :=
    steps_of_submit done
  have same := (sameProgress_storeAnswer answered).trans (sameProgress_storeFiles filed)
  obtain ⟨_, -, answered⟩ := (reads_checkTexts _).yields_bind.mp answered
  obtain ⟨inserted, made⟩ := yields_insertOne answered
  obtain ⟨_, -, filed⟩ := (reads_checkTexts _).yields_bind.mp filed
  rw [checked] at made
  have tables : s₂.tables =
      { s.tables with
        answers := s.tables.answers ++ [o.answer]
        answerFiles := s.tables.answerFiles ++ o.files } := by
    rw [(tables_of_insert filed).1, (tables_of_insert inserted).1]
    rfl
  have question_eq : o.answer.question = question := by
    rw [made]
    rfl
  have correct_eq : o.answer.correct = correct := by
    rw [made]
    rfl
  have arrow_eq : s₂.tables.arrowOf? o.answer.question = s.tables.arrowOf? question := by
    rw [tables, question_eq]
    rfl
  have success_iff : o.verdict = .success ↔ o.answer.correct = some true := by
    rw [checked, correct_eq]
    exact Verdict.ofCorrect_eq_success
  refine ⟨⟨q, hq, acting⟩, ?own, s₂, same, ?writes, ?follows⟩
  case own =>
    rw [made, member_resolveScope acting]
    exact ⟨rfl, rfl⟩
  case writes =>
    rw [tables]
    exact .submit hq made
  case follows =>
    rcases resolving with ⟨arrow, harrow, success, resolved⟩ | ⟨rfl, none_resolved, unresolving⟩
    · exact .spreads (arrow_eq.trans harrow) (success_iff.mp success) (spreads_resolveArrow resolved)
    · rw [none_resolved]
      apply Resolution.Follows.nothing
      intro arrow harrow correct
      exact unresolving arrow (arrow_eq.symm.trans harrow) (success_iff.mpr correct)

theorem does_review {reviewer answer : Id} {r : Review} {o : ReviewOutcome}
    (done : (review now reviewer answer r).Yields s o s') :
    (Call.review now reviewer answer r).Does s o.scope o.answer o.resolution s' := by
  obtain ⟨acting, -⟩ := stored_review done
  obtain ⟨a, feedback, s₁, ha, stored, acting', resolving⟩ := steps_of_review done
  have same := sameProgress_storeReview stored
  obtain ⟨changed, tables⟩ := yields_storeReview ha stored
  refine ⟨acting, own_answerScope acting', s₁, same, ?writes, ?follows⟩
  case writes =>
    rw [tables, Option.some.inj changed]
    exact .review ha
  case follows =>
    rcases resolving with ⟨arrow, harrow, correct, accepted⟩ | ⟨rfl, none_resolved, unresolving⟩
    · exact .spreads harrow correct (spreads_acceptArrow accepted)
    · rw [none_resolved]
      exact .nothing unresolving

end Action

/-- A call does what calls do, or it fails and leaves the rows as they were. -/
theorem Call.does_or_fails (s : Store) (call : Call) :
    (∃ scope a r, call.Does s scope a r (call.perform s)) ∨
      (call.perform s).tables = s.tables := by
  cases call with
  | submit now member question sub =>
    rcases done : Action.submit now member question sub s with ⟨e | o, s'⟩
    · simp only [perform, done]
      exact .inr (Action.undoes_submit _ _ _ _ s e s' done)
    · simp only [perform, done]
      exact .inl ⟨_, _, _, Action.does_submit done⟩
  | review now reviewer answer r =>
    rcases done : Action.review now reviewer answer r s with ⟨e | o, s'⟩
    · simp only [perform, done]
      exact .inr (Action.undoes_review _ _ _ _ s e s' done)
    · simp only [perform, done]
      exact .inl ⟨_, _, _, Action.does_review done⟩

namespace Tables

/-- The graph, the members and the plays are the same, and rows of progress were added. -/
def Gains (t t' : Tables) : Prop :=
  ∃ ps hs answers files, t' = { t.book ps hs with answers, answerFiles := files }

namespace Gains

variable {t t₁ t' : Tables} {scope : Scope}

theorem of_eq (same : t' = t) : t.Gains t' :=
  ⟨[], [], t.answers, t.answerFiles, by simp [same, book]⟩

theorem trans (h : t.Gains t₁) (h' : t₁.Gains t') : t.Gains t' := by
  obtain ⟨ps, hs, _, _, rfl⟩ := h
  obtain ⟨qs, is, answers, files, rfl⟩ := h'
  exact ⟨ps ++ qs, hs ++ is, answers, files, by simp [book]⟩

theorem prefixes (h : t.Gains t') :
    t.progresses <+: t'.progresses ∧ t.histories <+: t'.histories := by
  obtain ⟨ps, hs, _, _, rfl⟩ := h
  exact ⟨List.prefix_append _ ps, List.prefix_append _ hs⟩

theorem resolved (h : t.Gains t') {i : Id} (resolved : t.Resolved scope i) :
    t'.Resolved scope i := by
  obtain ⟨_, _, _, _, rfl⟩ := h
  obtain ⟨r, hr, shows⟩ := resolved
  exact ⟨r, List.mem_append_left _ hr, shows⟩

theorem recorded (h : t.Gains t') {i : Id} (recorded : t.Recorded scope i) :
    t'.Recorded scope i := by
  obtain ⟨_, _, _, _, rfl⟩ := h
  obtain ⟨r, hr, shows⟩ := recorded
  exact ⟨r, List.mem_append_left _ hr, shows⟩

theorem mem_resolvedArrows (h : t.Gains t') {map i : Id} (resolved : i ∈ t.resolvedArrows map scope) :
    i ∈ t'.resolvedArrows map scope := by
  rw [Tables.mem_resolvedArrows] at resolved ⊢
  obtain ⟨_, _, _, _, rfl⟩ := h
  obtain ⟨r, hr, shows⟩ := resolved
  exact ⟨r, List.mem_append_left _ hr, shows⟩

theorem mem_completedPairs (h : t.Gains t') {map node rule : Id}
    (completed : (node, rule) ∈ t.completedPairs map scope) :
    (node, rule) ∈ t'.completedPairs map scope := by
  rw [Tables.mem_completedPairs] at completed ⊢
  obtain ⟨_, _, _, _, rfl⟩ := h
  obtain ⟨r, hr, records⟩ := completed
  exact ⟨r, List.mem_append_left _ hr, records⟩

theorem mem_completedNodes (h : t.Gains t') {map node : Id}
    (completed : node ∈ t.completedNodes map scope) : node ∈ t'.completedNodes map scope := by
  rw [Tables.mem_completedNodes] at completed ⊢
  exact completed.imp fun rule pair => h.mem_completedPairs pair

end Gains

end Tables

section Rows

variable {s s' : Store} {call : Call} {scope : Scope} {a : Row.Answer} {r : Resolution}

theorem Resolution.Stored.gains {t t' : Tables} (h : r.Stored scope t t') : t.Gains t' :=
  ⟨_, _, t.answers, t.answerFiles, h.tables⟩

theorem Resolution.Follows.stored (h : r.Follows s scope a s') :
    r.Stored scope s.tables s'.tables := by
  cases h with
  | spreads found correct done => exact done.stored
  | nothing => exact stored_empty scope _

theorem Store.SameProgress.gains (h : s.SameProgress s') : s.tables.Gains s'.tables := by
  obtain ⟨answers, files, tables⟩ := h.tables
  exact ⟨[], [], answers, files, by simp [tables, Tables.book]⟩

theorem Call.Does.seatedIn (h : call.Does s scope a r s') : s.tables.SeatedIn scope :=
  h.acting.seatedIn

/-- A call writes its answer, and the rows of its resolution are stored after it. -/
theorem Call.Does.stored (h : call.Does s scope a r s') :
    ∃ t₁, call.Writes s.tables a t₁ ∧ r.Stored scope t₁ s'.tables := by
  obtain ⟨s₁, -, writes, follows⟩ := h.steps
  exact ⟨s₁.tables, writes, follows.stored⟩

theorem Call.Does.gains (h : call.Does s scope a r s') : s.tables.Gains s'.tables := by
  obtain ⟨s₁, same, -, follows⟩ := h.steps
  exact same.gains.trans follows.stored.gains

theorem Call.gains_perform (s : Store) (call : Call) :
    s.tables.Gains (call.perform s).tables := by
  rcases call.does_or_fails s with ⟨scope, a, r, does⟩ | same
  · exact does.gains
  · exact .of_eq same

end Rows

namespace Store.Lawful

variable {s s' : Store} {scope : Scope} {now : Timestamp} {arrow : Row.Arrow}

theorem completeStart (h : s.Lawful) {c : Completion}
    (done : (Action.completeStart now arrow scope).Yields s c s') : s'.Lawful := by
  obtain ⟨start, -, -, done⟩ := Action.yields_completeStart done
  obtain ⟨-, σ, -, -, s₁, resolved, completed, -⟩ := Action.yields_completeNodes_cons.mp done
  exact (h.insert resolved).insert completed

theorem spreads (h : s.Lawful) {r : Resolution} (done : r.Spreads s scope arrow s') : s'.Lawful := by
  cases done with
  | again => exact h
  | completes _ completed => exact h.completeStart completed
  | resolves _ stored => exact h.insert stored
  | unlocks _ stored completed =>
    have lawful := h.insert stored
    exact lawful.completeStart completed

theorem does (h : s.Lawful) {call : Call} {a : Row.Answer} {r : Resolution}
    (done : call.Does s scope a r s') : s'.Lawful := by
  obtain ⟨s₁, same, -, follows⟩ := done.steps
  have lawful := same.lawful h
  cases follows with
  | spreads found correct done => exact lawful.spreads done
  | nothing => exact lawful

theorem perform (h : s.Lawful) (call : Call) : (call.perform s).Lawful := by
  rcases call.does_or_fails s with ⟨scope, a, r, done⟩ | same
  · exact h.does done
  · exact h.mono same (call.respects_perform stepwise_ahead s)

end Store.Lawful

namespace Store

theorem gains_after (s : Store) (calls : List Call) :
    s.tables.Gains (s.after calls).tables := by
  induction calls generalizing s with
  | nil => exact .of_eq rfl
  | cons call calls ih => exact (call.gains_perform s).trans (ih (call.perform s))

/-- What is told by the rows of lawful stores, and kept by calls that go through, a run keeps. -/
theorem after_induction {P : Tables → Prop} {s : Store} (lawful : s.Lawful) (start : P s.tables)
    (step : ∀ {s s' : Store} {call : Call} {scope : Scope} {a : Row.Answer} {r : Resolution},
      s.Lawful → P s.tables → call.Does s scope a r s' → P s'.tables) (calls : List Call) :
    (s.after calls).Lawful ∧ P (s.after calls).tables := by
  induction calls generalizing s with
  | nil => exact ⟨lawful, start⟩
  | cons call calls ih =>
    apply ih (lawful.perform call)
    rcases call.does_or_fails s with ⟨scope, a, r, done⟩ | same
    · exact step lawful start done
    · rw [same]
      exact start

end Store

end LearningMap
