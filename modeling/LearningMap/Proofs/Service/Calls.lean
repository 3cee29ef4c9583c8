import LearningMap.Proofs.Service.Settlement
import LearningMap.Service.Review

/-!
# Submissions and reviews

Both store an answer, and resolve the arrow of its question when it is correct or accepted, in a
scope whose seat was looked up. Both are undone when they fail. Hence any run of them keeps a store
settled, whoever makes the calls and however many of them fail.
-/

namespace LearningMap

open Entity

/-- What a member or a reviewer asks for. -/
inductive Call where
  | submit (now : Timestamp) (member question : Id) (submission : Submission)
  | review (now : Timestamp) (reviewer answer : Id) (r : Review)

/-- The store after a call, whether it succeeds or fails. -/
def Call.perform (s : Store) : Call → Store
  | submit now member question submission => (Action.submit now member question submission s).2
  | review now reviewer answer r => (Action.review now reviewer answer r s).2

def Store.after (s : Store) (calls : List Call) : Store := calls.foldl Call.perform s

namespace Action

variable {s s' : Store} {scope : Scope} {now : Timestamp} {arrow : Row.Arrow}

theorem reads_orFail {α : Type} (e : Except Refusal α) : (orFail e).Reads := by
  cases e with
  | ok a => exact reads_pure a
  | error cause => exact reads_throw _

theorem yields_orFail {α : Type} {e : Except Refusal α} {v : α} (ok : e = .ok v) :
    (orFail e).Yields s v s := by
  rw [ok]
  rfl

theorem reads_resolveScope (member map : Id) (seat : Option Id) :
    (resolveScope member map seat).Reads := by
  unfold resolveScope
  cases seat with
  | none => exact reads_pure _
  | some id =>
    refine (reads_query _).bind fun o => (reads_orRefuse _ o).bind fun found => ?_
    split
    · exact reads_throw _
    · split
      · exact reads_throw _
      · split
        · exact reads_throw _
        · exact reads_pure _

/-- A member acts alone, or from an active seat of their own in a play of the map. -/
theorem yields_resolveScope {member map : Id} {seat : Option Id}
    (done : (resolveScope member map seat).Yields s scope s') :
    (seat = none ∧ scope = .solo member) ∨
      ∃ id found, seat = some id ∧ s.tables.seating? id = some found ∧
        found.seat.member = member ∧ ¬ found.seat.deactivated ∧ found.map = map ∧
        scope = .seated member found.seat.id found.seat.play := by
  unfold resolveScope at done
  cases seat with
  | none =>
    obtain ⟨rfl, -⟩ := yields_pure.mp done
    exact .inl ⟨rfl, rfl⟩
  | some id =>
    replace done := yields_query_bind.mp done
    obtain ⟨found, hfound, done⟩ := yields_orRefuse_bind.mp done
    split at done
    · exact absurd done not_yields_refuse
    · rename_i own
      split at done
      · exact absurd done not_yields_refuse
      · rename_i active
        split at done
        · exact absurd done not_yields_refuse
        · rename_i on_map
          obtain ⟨rfl, -⟩ := yields_pure.mp done
          exact .inr ⟨id, found, rfl, hfound, not_not.mp own, active, not_not.mp on_map, rfl⟩

theorem seatedIn_resolveScope {member map : Id} {seat : Option Id}
    (done : (resolveScope member map seat).Yields s scope s') : s.tables.SeatedIn scope := by
  rcases yields_resolveScope done with ⟨-, rfl⟩ | ⟨id, found, -, hfound, -, -, -, rfl⟩
  · exact s.tables.seatedIn_solo member
  · exact Tables.seatedIn_of_seating? hfound

theorem member_resolveScope {member map : Id} {seat : Option Id}
    (done : (resolveScope member map seat).Yields s scope s') : scope.member = member := by
  rcases yields_resolveScope done with ⟨-, rfl⟩ | ⟨id, found, -, -, -, -, -, rfl⟩
  · rfl
  · rfl

theorem reads_answerScope (a : Row.Answer) : (answerScope a).Reads := by
  unfold answerScope
  cases a.seat with
  | none => exact reads_pure _
  | some id =>
    exact (reads_query _).bind fun o => (reads_orRefuse _ o).bind fun found => reads_pure _

/-- An answer belongs to its member alone, or to the seat that it was submitted from. -/
theorem yields_answerScope {a : Row.Answer} :
    (answerScope a).Yields s scope s' ↔ s' = s ∧
      ((a.seat = none ∧ scope = .solo a.member) ∨
        ∃ id found, a.seat = some id ∧ s.tables.seating? id = some found ∧
          scope = .seated a.member found.seat.id found.seat.play) := by
  unfold answerScope
  cases a.seat with
  | none =>
    rw [yields_pure]
    constructor
    · rintro ⟨rfl, rfl⟩
      exact ⟨rfl, .inl ⟨rfl, rfl⟩⟩
    · rintro ⟨rfl, ⟨-, rfl⟩ | ⟨_, _, ⟨⟩, -⟩⟩
      exact ⟨rfl, rfl⟩
  | some id =>
    rw [yields_query_bind, yields_orRefuse_bind]
    constructor
    · rintro ⟨found, hfound, done⟩
      obtain ⟨rfl, rfl⟩ := yields_pure.mp done
      exact ⟨rfl, .inr ⟨id, found, rfl, hfound, rfl⟩⟩
    · rintro ⟨rfl, ⟨⟨⟩, -⟩ | ⟨_, found, ⟨⟩, hfound, rfl⟩⟩
      exact ⟨found, hfound, yields_pure.mpr ⟨rfl, rfl⟩⟩

theorem seatedIn_answerScope {a : Row.Answer} (done : (answerScope a).Yields s scope s') :
    s.tables.SeatedIn scope := by
  obtain ⟨-, ⟨-, rfl⟩ | ⟨id, found, -, hfound, rfl⟩⟩ := yields_answerScope.mp done
  · exact s.tables.seatedIn_solo a.member
  · exact Tables.seatedIn_of_seating? hfound

theorem reads_checkPrerequisites (arrow : Option Row.Arrow) (scope : Scope) :
    (checkPrerequisites arrow scope).Reads := by
  unfold checkPrerequisites
  cases arrow with
  | none => exact reads_pure _
  | some arrow =>
    refine (reads_query _).bind fun missing => ?_
    split
    · exact reads_pure _
    · exact (reads_query _).bind fun nodes => reads_throw _

theorem sameProgress_storeAnswer {map question member : Id} {seat : Option Id} {answer : String}
    {correct : Option Bool} {feedback : Option String} {a : Row.Answer}
    (done : (storeAnswer now map question member seat answer correct feedback).Yields s a s') :
    s.SameProgress s' := by
  obtain ⟨_, -, done⟩ := (reads_checkTexts _).yields_bind.mp done
  obtain ⟨inserted, -⟩ := yields_insertOne done
  refine ⟨fun lawful => lawful.insert inserted, ?_⟩
  obtain ⟨_, -, -, rfl⟩ := yields_insert.mp inserted
  exact ⟨_, _, rfl⟩

theorem sameProgress_storeFiles {answer : Id} {files : List FileReference}
    {stored : List Row.AnswerFile} (done : (storeFiles now answer files).Yields s stored s') :
    s.SameProgress s' := by
  obtain ⟨_, -, inserted⟩ := (reads_checkTexts _).yields_bind.mp done
  refine ⟨fun lawful => lawful.insert inserted, ?_⟩
  obtain ⟨_, -, -, rfl⟩ := yields_insert.mp inserted
  exact ⟨_, _, rfl⟩

theorem sameProgress_storeReview {answer reviewer : Id} {correct : Bool} {feedback : Option String}
    {a : Option Row.Answer}
    (done : (storeReview now answer correct feedback reviewer).Yields s a s') :
    s.SameProgress s' := by
  obtain ⟨_, -, updated⟩ := (reads_checkTexts _).yields_bind.mp done
  refine ⟨fun lawful => lawful.update ?_ ?_ updated, ?_⟩
  · exact fun _ => rfl
  · exact fun _ => rfl
  rcases yields_update updated with ⟨-, rfl⟩ | ⟨_, _, _, -, rfl, -⟩
  · exact ⟨_, _, rfl⟩
  · exact ⟨_, _, rfl⟩

/-- A seat that is refused ends a submission before its body is looked at. -/
theorem submit_of_error_resolveScope {member question : Id} {sub : Submission} {q : Row.Question}
    {rules : QuestionRules} {e : Failure} (hq : s.tables.question? question = some q)
    (columns : QuestionRules.ofColumns q.bypass q.types q.strategy = .ok rules)
    (refused : resolveScope member q.map sub.seat s = (.error e, s')) (now : Timestamp) :
    submit now member question sub s = (.error e, s) := by
  obtain rfl := (reads_resolveScope member q.map sub.seat).store_eq_of_error refused
  unfold submit
  rw [bind_of_ok (yields_query.mpr ⟨hq, rfl⟩), bind_of_ok (yields_orRefuse.mpr ⟨rfl, rfl⟩),
    bind_of_ok (yields_orFail columns)]
  exact bind_of_error refused

/-- The steps of a submission that goes through: the prerequisites hold, the answer and its files
are stored, and a correct answer resolves the arrow of its question, if there is one. -/
theorem steps_of_submit {member question : Id} {sub : Submission} {o : SubmissionOutcome}
    (done : (submit now member question sub).Yields s o s') :
    ∃ q text correct s₁ s₂, s.tables.question? question = some q ∧
      (resolveScope member q.map sub.seat).Yields s o.scope s ∧
      (checkPrerequisites (s.tables.arrowOf? question) o.scope).Yields s () s ∧
      (storeAnswer now q.map question member o.scope.seat text correct
        (o.verdict.feedback q.onSuccess q.onFailure)).Yields s o.answer s₁ ∧
      (storeFiles now o.answer.id sub.files).Yields s₁ o.files s₂ ∧
      o.verdict = .ofCorrect correct ∧
      ((∃ arrow, s.tables.arrowOf? question = some arrow ∧ o.verdict = .success ∧
          (resolveArrow now arrow o.scope).Yields s₂ o.resolution s') ∨
        s' = s₂ ∧ o.resolution = .empty ∧
          ∀ arrow, s.tables.arrowOf? question = some arrow → o.verdict ≠ .success) := by
  unfold submit at done
  replace done := yields_query_bind.mp done
  obtain ⟨q, hq, done⟩ := yields_orRefuse_bind.mp done
  have hid := Tables.id_of_question? hq
  obtain ⟨rules, -, done⟩ := (reads_orFail _).yields_bind.mp done
  obtain ⟨scope, acting, done⟩ := (reads_resolveScope _ _ _).yields_bind.mp done
  replace done := yields_query_bind.mp done
  obtain ⟨_, permitted, done⟩ := (reads_checkPrerequisites _ _).yields_bind.mp done
  obtain ⟨_, -, done⟩ := (reads_orFail _).yields_bind.mp done
  replace done := yields_query_bind.mp done
  obtain ⟨answer, s₁, answered, done⟩ := yields_bind.mp (yields_atomic.mp done)
  obtain ⟨files, s₂, filed, done⟩ := yields_bind.mp done
  rw [hid] at permitted answered done
  dsimp only at done
  split at done
  · rename_i arrow harrow correct
    obtain ⟨r, s₃, resolved, done⟩ := yields_bind.mp done
    obtain ⟨rfl, rfl⟩ := yields_pure.mp done
    have success := Verdict.ofCorrect_eq_success.mpr correct
    exact ⟨q, _, _, s₁, s₂, hq, acting, permitted, answered, filed, rfl,
      .inl ⟨arrow, harrow, success, resolved⟩⟩
  · rename_i unresolving
    obtain ⟨rfl, rfl⟩ := yields_pure.mp done
    refine ⟨q, _, _, s₁, s₂, hq, acting, permitted, answered, filed, rfl,
      .inr ⟨rfl, rfl, fun arrow harrow success => ?_⟩⟩
    exact unresolving arrow harrow (Verdict.ofCorrect_eq_success.mp success)

/-- What a submission that goes through has done: the prerequisites held, the answer was stored, and
a correct answer has resolved the arrow of its question, if there is one. -/
theorem yields_submit {member question : Id} {sub : Submission} {o : SubmissionOutcome}
    (done : (submit now member question sub).Yields s o s') :
    ∃ q, s.tables.question? question = some q ∧
      (resolveScope member q.map sub.seat).Yields s o.scope s ∧
      (checkPrerequisites (s.tables.arrowOf? question) o.scope).Yields s () s ∧
      ∃ s₁, s.SameProgress s₁ ∧
        ((∃ arrow, s.tables.arrowOf? question = some arrow ∧ o.verdict = .success ∧
            (resolveArrow now arrow o.scope).Yields s₁ o.resolution s') ∨
          s' = s₁ ∧ ∀ arrow, s.tables.arrowOf? question = some arrow → o.verdict ≠ .success) := by
  obtain ⟨q, _, _, s₁, s₂, hq, acting, permitted, answered, filed, -, resolving⟩ :=
    steps_of_submit done
  have same := (sameProgress_storeAnswer answered).trans (sameProgress_storeFiles filed)
  refine ⟨q, hq, acting, permitted, s₂, same, ?_⟩
  rcases resolving with resolved | ⟨unchanged, -, unresolving⟩
  · exact .inl resolved
  · exact .inr ⟨unchanged, unresolving⟩

/-- The steps of a review that goes through: its decision is stored, and an accepted answer resolves
the arrow of its question, if there is one. -/
theorem steps_of_review {reviewer answer : Id} {r : Review} {o : ReviewOutcome}
    (done : (review now reviewer answer r).Yields s o s') :
    ∃ a feedback s₁, s.tables.answer? answer = some a ∧
      (storeReview now answer r.correct feedback reviewer).Yields s (some o.answer) s₁ ∧
      (answerScope o.answer).Yields s₁ o.scope s₁ ∧
      ((∃ arrow, s₁.tables.arrowOf? o.answer.question = some arrow ∧ o.answer.correct = some true ∧
          (acceptArrow now arrow o.scope).Yields s₁ o.resolution s') ∨
        s' = s₁ ∧ o.resolution = .empty ∧
          ∀ arrow, s₁.tables.arrowOf? o.answer.question = some arrow →
            o.answer.correct ≠ some true) := by
  unfold review at done
  replace done := yields_query_bind.mp (yields_atomic.mp done)
  obtain ⟨a, ha, done⟩ := yields_orRefuse_bind.mp done
  replace done := yields_query_bind.mp done
  obtain ⟨stored, s₁, reviewed, done⟩ := yields_bind.mp done
  obtain ⟨b, rfl, done⟩ := yields_orRefuse_bind.mp done
  obtain ⟨scope, acting, done⟩ := (reads_answerScope b).yields_bind.mp done
  replace done := yields_query_bind.mp done
  dsimp only at done
  split at done
  · rename_i arrow harrow correct
    obtain ⟨_, s₂, resolved, done⟩ := yields_bind.mp done
    obtain ⟨rfl, rfl⟩ := yields_pure.mp done
    exact ⟨a, _, s₁, ha, reviewed, acting, .inl ⟨arrow, harrow, correct, resolved⟩⟩
  · rename_i unresolving
    obtain ⟨rfl, rfl⟩ := yields_pure.mp done
    exact ⟨a, _, s₁, ha, reviewed, acting, .inr ⟨rfl, rfl, unresolving⟩⟩

end Action

/-- A relation that composes and is kept by the insertions and updates that calls are made of. -/
structure Store.Stepwise (R : Store → Store → Prop) : Prop extends Store.Composes R where
  progress : ∀ rows : List Row.ArrowProgress, (Action.insert .skip rows).Respects R
  history : ∀ rows : List Row.NodeHistory, (Action.insert .skip rows).Respects R
  answer : ∀ rows : List Row.Answer, (Action.insert .fail rows).Respects R
  file : ∀ rows : List Row.AnswerFile, (Action.insert .fail rows).Respects R
  change : ∀ id (change : Row.Answer → Row.Answer), (Action.update id change).Respects R

namespace Action

section Stepwise

variable {R : Store → Store → Prop} (steps : Store.Stepwise R)
include steps

theorem respects_findOrResolve (now : Timestamp) (map arrow : Id) (scope : Scope) :
    (findOrResolve now map arrow scope).Respects R := by
  refine (reads_query _).bind_respects steps.1 fun found => ?_
  cases found with
  | some old => exact (reads_pure _).respects steps.1
  | none =>
    have stored : (storeResolution now map arrow scope).Respects R :=
      .bind steps.1 (steps.progress _) fun added => (reads_pure _).respects steps.1
    refine .bind steps.1 stored fun new => ?_
    cases new with
    | some row => exact (reads_pure _).respects steps.1
    | none =>
      refine (reads_query _).bind_respects steps.1 fun again => ?_
      cases again with
      | some old => exact (reads_pure _).respects steps.1
      | none => exact (reads_throw _).respects steps.1

theorem respects_completeNodes (now : Timestamp) (actor : Actor) (nodes : List Row.Node) :
    (completeNodes now actor nodes).Respects R := by
  unfold completeNodes
  cases nodes with
  | nil => exact (reads_pure _).respects steps.1
  | cons first rest =>
    dsimp only
    split
    · exact (reads_throw _).respects steps.1
    · refine (reads_orRefuse _ _).bind_respects steps.1 fun scope => ?_
      refine (reads_lock scope).bind_respects steps.1 fun _ => ?_
      refine (reads_query _).bind_respects steps.1 fun before => ?_
      refine .bind steps.1 (steps.progress _) fun resolved => ?_
      exact .bind steps.1 (steps.history _) fun completed => (reads_pure _).respects steps.1

theorem respects_completeStart (now : Timestamp) (arrow : Row.Arrow) (scope : Scope) :
    (completeStart now arrow scope).Respects R := by
  refine (reads_query _).bind_respects steps.1 fun found => ?_
  refine (reads_orRefuse _ found).bind_respects steps.1 fun start => ?_
  exact respects_completeNodes steps now _ _

theorem respects_resolveArrow (now : Timestamp) (arrow : Row.Arrow) (scope : Scope) :
    (resolveArrow now arrow scope).Respects R := by
  refine (reads_lock scope).bind_respects steps.1 fun _ => ?_
  refine .bind steps.1 (respects_findOrResolve steps now _ _ scope) fun found => ?_
  obtain ⟨row, made⟩ := found
  cases made with
  | false => exact (reads_pure _).respects steps.1
  | true =>
    refine (reads_query _).bind_respects steps.1 fun siblings => ?_
    refine (reads_query _).bind_respects steps.1 fun resolved => ?_
    split
    · exact .bind steps.1 (respects_completeStart steps now arrow scope) fun c =>
        (reads_pure _).respects steps.1
    · exact (reads_pure _).respects steps.1

theorem respects_acceptArrow (now : Timestamp) (arrow : Row.Arrow) (scope : Scope) :
    (acceptArrow now arrow scope).Respects R := by
  refine (reads_lock scope).bind_respects steps.1 fun _ => ?_
  refine .bind steps.1 (respects_findOrResolve steps now _ _ scope) fun found => ?_
  exact .bind steps.1 (respects_completeStart steps now arrow scope) fun c =>
    (reads_pure _).respects steps.1

theorem respects_storeAnswer (now : Timestamp) (map question member : Id) (seat : Option Id)
    (answer : String) (correct : Option Bool) (feedback : Option String) :
    (storeAnswer now map question member seat answer correct feedback).Respects R := by
  refine (reads_checkTexts _).bind_respects steps.1 fun _ => ?_
  refine .bind steps.1 (steps.answer _) fun added => ?_
  cases added with
  | nil => exact (reads_throw _).respects steps.1
  | cons a rest => exact (reads_pure a).respects steps.1

theorem respects_submit (now : Timestamp) (member question : Id) (sub : Submission) :
    (submit now member question sub).Respects R := by
  unfold submit
  refine (reads_query _).bind_respects steps.1 fun o => ?_
  refine (reads_orRefuse _ o).bind_respects steps.1 fun q => ?_
  refine (reads_orFail _).bind_respects steps.1 fun rules => ?_
  refine (reads_resolveScope _ _ _).bind_respects steps.1 fun scope => ?_
  refine (reads_query _).bind_respects steps.1 fun arrow => ?_
  refine (reads_checkPrerequisites _ _).bind_respects steps.1 fun _ => ?_
  refine (reads_orFail _).bind_respects steps.1 fun _ => ?_
  refine (reads_query _).bind_respects steps.1 fun accepted => ?_
  refine .atomic steps.1 (.bind steps.1 (respects_storeAnswer steps _ _ _ _ _ _ _ _) fun a => ?_)
  have filed : (storeFiles now a.id sub.files).Respects R :=
    (reads_checkTexts _).bind_respects steps.1 fun _ => steps.file _
  refine .bind steps.1 filed fun files => ?_
  dsimp only
  split
  · exact .bind steps.1 (respects_resolveArrow steps _ _ _) fun r => (reads_pure _).respects steps.1
  · exact (reads_pure _).respects steps.1

theorem respects_review (now : Timestamp) (reviewer answer : Id) (r : Review) :
    (review now reviewer answer r).Respects R := by
  refine .atomic steps.1 ((reads_query _).bind_respects steps.1 fun o => ?_)
  refine (reads_orRefuse _ o).bind_respects steps.1 fun found => ?_
  refine (reads_query _).bind_respects steps.1 fun q => ?_
  have changed : ∀ feedback, (storeReview now answer r.correct feedback reviewer).Respects R :=
    fun feedback => (reads_checkTexts _).bind_respects steps.1 fun _ => steps.change _ _
  refine .bind steps.1 (changed _) fun stored => ?_
  refine (reads_orRefuse _ stored).bind_respects steps.1 fun a => ?_
  refine (reads_answerScope a).bind_respects steps.1 fun scope => ?_
  refine (reads_query _).bind_respects steps.1 fun arrow => ?_
  dsimp only
  split
  · exact .bind steps.1 (respects_acceptArrow steps _ _ _) fun r => (reads_pure _).respects steps.1
  · exact (reads_pure _).respects steps.1

end Stepwise

theorem undoes_submit (now : Timestamp) (member question : Id) (sub : Submission) :
    (submit now member question sub).Undoes := by
  unfold submit
  refine (reads_query _).bind_undoes fun o => (reads_orRefuse _ o).bind_undoes fun q => ?_
  refine (reads_orFail _).bind_undoes fun rules => ?_
  refine (reads_resolveScope _ _ _).bind_undoes fun scope => ?_
  refine (reads_query _).bind_undoes fun arrow => ?_
  refine (reads_checkPrerequisites _ _).bind_undoes fun _ => ?_
  refine (reads_orFail _).bind_undoes fun _ => (reads_query _).bind_undoes fun accepted => ?_
  exact undoes_atomic _

theorem undoes_review (now : Timestamp) (reviewer answer : Id) (r : Review) :
    (review now reviewer answer r).Undoes :=
  undoes_atomic _

end Action

theorem Call.respects_perform {R : Store → Store → Prop} (steps : Store.Stepwise R) (s : Store)
    (call : Call) : R s (call.perform s) := by
  cases call with
  | submit now member question submission => exact Action.respects_submit steps _ _ _ _ s
  | review now reviewer answer r => exact Action.respects_review steps _ _ _ _ s

namespace Store

/-- What every statement of a call keeps, a run of calls keeps. -/
theorem Stepwise.after {R : Store → Store → Prop} (steps : Stepwise R) (s : Store)
    (calls : List Call) : R s (s.after calls) := by
  induction calls generalizing s with
  | nil => exact steps.refl s
  | cons call calls ih => exact steps.trans (call.respects_perform steps s) (ih (call.perform s))

theorem stepwise_ahead : Stepwise Ahead where
  toComposes := composes_ahead
  progress := Action.insert_ahead .skip
  history := Action.insert_ahead .skip
  answer := Action.insert_ahead .fail
  file := Action.insert_ahead .fail
  change := Action.update_ahead

/-- The graph, the members and the plays are the same in two stores. -/
def SameCourse (s s' : Store) : Prop :=
  ∃ ps hs as fs, s'.tables =
    { s.tables with progresses := ps, histories := hs, answers := as, answerFiles := fs }

theorem composes_sameCourse : Composes SameCourse where
  refl _ := ⟨_, _, _, _, rfl⟩
  trans := by
    rintro s s₁ s₂ ⟨_, _, _, _, first⟩ ⟨_, _, _, _, second⟩
    exact ⟨_, _, _, _, by rw [second, first]⟩
  undo _ := ⟨_, _, _, _, rfl⟩

/-- Rows may be inserted into any table that is no part of the graph. -/
theorem insert_sameCourse {ρ : Type} [Entity ρ]
    (course : ∀ t (rs : List ρ), ∃ ps hs as fs, setRows t rs =
      { t with progresses := ps, histories := hs, answers := as, answerFiles := fs })
    (onClash : OnClash) (new : List ρ) : (Action.insert onClash new).Respects SameCourse := by
  intro s
  rcases Action.insert_tables onClash new s with same | ⟨rs, set⟩
  · exact ⟨_, _, _, _, same⟩
  · obtain ⟨_, _, _, _, kept⟩ := course s.tables rs
    exact ⟨_, _, _, _, set.trans kept⟩

theorem stepwise_sameCourse : Stepwise SameCourse where
  toComposes := composes_sameCourse
  progress := insert_sameCourse (fun _ _ => ⟨_, _, _, _, rfl⟩) .skip
  history := insert_sameCourse (fun _ _ => ⟨_, _, _, _, rfl⟩) .skip
  answer := insert_sameCourse (fun _ _ => ⟨_, _, _, _, rfl⟩) .fail
  file := insert_sameCourse (fun _ _ => ⟨_, _, _, _, rfl⟩) .fail
  change id change s := by
    rcases Action.update_tables id change s with same | ⟨_, set⟩
    · exact ⟨_, _, _, _, same⟩
    · exact ⟨_, _, _, _, set⟩

end Store

namespace Store.Settled

variable {s s' : Store} {now : Timestamp}

theorem submit (h : s.Settled) {member question : Id} {sub : Submission} {o : SubmissionOutcome}
    (done : (Action.submit now member question sub).Yields s o s') : s'.Settled := by
  obtain ⟨q, -, acting, -, s₁, same, resolving⟩ := Action.yields_submit done
  have seated := Action.seatedIn_resolveScope acting
  have settled := h.frame same
  rcases resolving with ⟨arrow, harrow, -, resolved⟩ | ⟨rfl, -⟩
  · have found := (Tables.mem_of_arrowOf? harrow).1
    exact settled.resolveArrow (same.seatedIn seated) (same.arrows_eq ▸ found) resolved
  · exact settled

theorem review (h : s.Settled) {reviewer answer : Id} {r : Review} {o : ReviewOutcome}
    (done : (Action.review now reviewer answer r).Yields s o s') : s'.Settled := by
  obtain ⟨a, _, s₁, -, reviewed, acting, resolving⟩ := Action.steps_of_review done
  have settled := h.frame (Action.sameProgress_storeReview reviewed)
  rcases resolving with ⟨arrow, harrow, -, resolved⟩ | ⟨rfl, -⟩
  · have seated := Action.seatedIn_answerScope acting
    exact settled.acceptArrow seated (Tables.mem_of_arrowOf? harrow).1 resolved
  · exact settled

/-- An operation that is undone when it fails keeps a store settled if it does so when it
succeeds. -/
theorem perform_of_yields {α : Type} {act : Action α} (h : s.Settled) (undoes : act.Undoes)
    (ahead : act.Respects Ahead) (ok : ∀ a s', act.Yields s a s' → s'.Settled) :
    (act s).2.Settled := by
  rcases hact : act s with ⟨e | a, s'⟩
  · have passed := ahead s
    rw [hact] at passed
    exact h.frame (sameProgress_of_tables_eq (undoes s e s' hact) passed)
  · exact ok a s' hact

theorem perform (h : s.Settled) (call : Call) : (call.perform s).Settled := by
  cases call with
  | submit now member question submission =>
    exact h.perform_of_yields (Action.undoes_submit _ _ _ _)
      (Action.respects_submit stepwise_ahead _ _ _ _) fun _ _ done => h.submit done
  | review now reviewer answer r =>
    exact h.perform_of_yields (Action.undoes_review _ _ _ _)
      (Action.respects_review stepwise_ahead _ _ _ _) fun _ _ done => h.review done

theorem after (h : s.Settled) (calls : List Call) : (s.after calls).Settled := by
  induction calls generalizing s with
  | nil => exact h
  | cons call calls ih => exact ih (h.perform call)

end Store.Settled

end LearningMap
