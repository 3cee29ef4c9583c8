import LearningMap.Proofs.Service.Calls

/-!
# What hinders a submission

Of all the ways in which a submission can fail, one asks for nodes to be completed first. No part of
a submission fails so but the check of the prerequisites.
-/

namespace LearningMap

/-- Whether a request is refused because nodes have to be completed first. -/
def Failure.hinders : Failure → Bool
  | refused (.prerequisitesIncomplete _) => true
  | _ => false

namespace Action

/-- An operation that never fails because nodes have to be completed first. -/
def Unhindered {α : Type} (act : Action α) : Prop :=
  ∀ s e s', act s = (.error e, s') → e.hinders = false

section Unhindered

variable {α β : Type} {s s' : Store} {e : Failure}

theorem unhindered_pure (a : α) : (pure a : Action α).Unhindered := by
  intro s e s' h
  cases h

theorem unhindered_throw (other : e.hinders = false) : (throw e : Action α).Unhindered := by
  intro s e' s' h
  cases h
  exact other

theorem unhindered_query (f : Tables → α) : (query f).Unhindered := by
  intro s e s' h
  cases h

theorem unhindered_orRefuse {cause : Refusal} (other : (Failure.refused cause).hinders = false)
    (o : Option α) : (orRefuse cause o).Unhindered := by
  cases o with
  | none => exact unhindered_throw other
  | some a => exact unhindered_pure a

theorem unhindered_insert {ρ : Type} [Entity ρ] (onClash : OnClash) (new : List ρ) :
    (insert onClash new).Unhindered := by
  intro s e s' h
  unfold insert at h
  dsimp only at h
  split at h
  · cases h
    rfl
  · split at h
    · cases h
      rfl
    · cases h

theorem unhindered_checkTexts (texts : List String) : (checkTexts texts).Unhindered := by
  unfold checkTexts
  split
  · exact unhindered_throw rfl
  · exact unhindered_pure ()

theorem Unhindered.bind {x : Action α} {f : α → Action β} (hx : x.Unhindered)
    (hf : ∀ a, (f a).Unhindered) : (x >>= f).Unhindered := by
  intro s e s' h
  rcases error_bind h with first | ⟨a, s₁, -, later⟩
  · exact hx s e s' first
  · exact hf a s₁ e s' later

theorem Unhindered.atomic {act : Action α} (h : act.Unhindered) : act.atomic.Unhindered := by
  intro s e s' failed
  unfold Action.atomic at failed
  rcases hact : act s with ⟨e' | a, s₁⟩
  · rw [hact] at failed
    cases failed
    exact h s _ s₁ hact
  · rw [hact] at failed
    cases failed

/-- A check that goes through, or fails for another reason, is not what a request is hindered by. -/
theorem Unhindered.of_bind {x : Action α} {f : α → Action β} (hx : x.Unhindered) (reads : x.Reads)
    (h : (x >>= f) s = (.error e, s')) (hinders : e.hinders = true) :
    ∃ a, x.Yields s a s ∧ f a s = (.error e, s') := by
  rcases error_bind h with first | ⟨a, s₁, done, later⟩
  · exact absurd (hx s e s' first) (by simp [hinders])
  · obtain rfl := reads.store_eq done
    exact ⟨a, done, later⟩

end Unhindered

theorem unhindered_lock (scope : Scope) : (lock scope).Unhindered := by
  unfold lock
  split
  · exact unhindered_pure ()
  · exact unhindered_throw rfl

theorem unhindered_completeNodes (now : Timestamp) (actor : Actor) (nodes : List Row.Node) :
    (completeNodes now actor nodes).Unhindered := by
  unfold completeNodes
  cases nodes with
  | nil => exact unhindered_pure _
  | cons first rest =>
    dsimp only
    split
    · exact unhindered_throw rfl
    · refine (unhindered_orRefuse rfl _).bind fun scope => (unhindered_lock scope).bind fun _ => ?_
      refine (unhindered_query _).bind fun before => (unhindered_insert .skip _).bind fun ps => ?_
      exact (unhindered_insert .skip _).bind fun hs => unhindered_pure _

theorem unhindered_findOrResolve (now : Timestamp) (map arrow : Id) (scope : Scope) :
    (findOrResolve now map arrow scope).Unhindered := by
  refine (unhindered_query _).bind fun found => ?_
  cases found with
  | some old => exact unhindered_pure _
  | none =>
    have stored : (storeResolution now map arrow scope).Unhindered :=
      (unhindered_insert .skip _).bind fun added => unhindered_pure _
    refine stored.bind fun new => ?_
    cases new with
    | some row => exact unhindered_pure _
    | none =>
      refine (unhindered_query _).bind fun again => ?_
      cases again with
      | some old => exact unhindered_pure _
      | none => exact unhindered_throw rfl

theorem unhindered_resolveArrow (now : Timestamp) (arrow : Row.Arrow) (scope : Scope) :
    (resolveArrow now arrow scope).Unhindered := by
  refine (unhindered_lock scope).bind fun _ => ?_
  refine (unhindered_findOrResolve now _ _ scope).bind fun found => ?_
  obtain ⟨row, made⟩ := found
  cases made with
  | false => exact unhindered_pure _
  | true =>
    refine (unhindered_query _).bind fun siblings => (unhindered_query _).bind fun resolved => ?_
    have completed : (completeStart now arrow scope).Unhindered :=
      (unhindered_query _).bind fun found => (unhindered_orRefuse rfl found).bind fun start =>
        unhindered_completeNodes now _ _
    split
    · exact completed.bind fun c => unhindered_pure _
    · exact unhindered_pure _

theorem unhindered_storeAnswer (now : Timestamp) (map question member : Id) (seat : Option Id)
    (answer : String) (correct : Option Bool) (feedback : Option String) :
    (storeAnswer now map question member seat answer correct feedback).Unhindered := by
  refine (unhindered_checkTexts _).bind fun _ => (unhindered_insert .fail _).bind fun added => ?_
  cases added with
  | nil => exact unhindered_throw rfl
  | cons a rest => exact unhindered_pure a

variable {s s' : Store} {scope : Scope} {e : Failure}

theorem yields_checkPrerequisites {arrow : Row.Arrow} {u : Unit} :
    (checkPrerequisites (some arrow) scope).Yields s u s' ↔
      (missingFor s.tables arrow scope).isEmpty = true ∧ s = s' := by
  unfold checkPrerequisites
  rw [yields_query_bind]
  split
  · rename_i none_missing
    rw [and_iff_right none_missing, yields_pure]
    exact and_iff_right rfl
  · rename_i some_missing
    refine ⟨fun done => ?_, fun done => absurd done.1 some_missing⟩
    exact absurd (yields_query_bind.mp done) not_yields_refuse

theorem error_checkPrerequisites {arrow : Option Row.Arrow}
    (h : checkPrerequisites arrow scope s = (.error e, s')) :
    ∃ a, arrow = some a ∧ (missingFor s.tables a scope).isEmpty = false := by
  cases arrow with
  | none => cases h
  | some a =>
    refine ⟨a, rfl, Bool.eq_false_iff.mpr fun none_missing => ?_⟩
    have passes : (checkPrerequisites (some a) scope).Yields s () s :=
      yields_checkPrerequisites.mpr ⟨none_missing, rfl⟩
    rw [Yields, h] at passes
    cases passes

/-- Columns that cannot be read are a fault of the data. -/
theorem unhindered_ofColumns (bypass : Bool) (types : List String) (strategy : String) :
    (orFail (QuestionRules.ofColumns bypass types strategy)).Unhindered := by
  unfold QuestionRules.ofColumns
  cases types.mapM QuestionType.ofName with
  | error reason => exact unhindered_throw rfl
  | ok types =>
    cases Strategy.ofName strategy with
    | error reason => exact unhindered_throw rfl
    | ok strategy => exact unhindered_pure _

theorem unhindered_require (rules : QuestionRules) (answer : Option String) (files : Nat) :
    (orFail (rules.require answer files)).Unhindered := by
  unfold QuestionRules.require
  split
  · exact unhindered_throw rfl
  · split
    · exact unhindered_throw rfl
    · exact unhindered_pure ()

theorem unhindered_resolveScope (member map : Id) (seat : Option Id) :
    (resolveScope member map seat).Unhindered := by
  unfold resolveScope
  cases seat with
  | none => exact unhindered_pure _
  | some id =>
    refine (unhindered_query _).bind fun o => (unhindered_orRefuse rfl o).bind fun found => ?_
    split
    · exact unhindered_throw rfl
    · split
      · exact unhindered_throw rfl
      · split
        · exact unhindered_throw rfl
        · exact unhindered_pure _

/-- A submission is hindered only by nodes that are missing for the scope and the arrow. -/
theorem missing_of_error_submit {now : Timestamp} {member question : Id} {sub : Submission}
    (h : submit now member question sub s = (.error e, s')) (hinders : e.hinders = true) :
    ∃ q, s.tables.question? question = some q ∧
      ∃ scope, (resolveScope member q.map sub.seat).Yields s scope s ∧
        ∃ arrow, s.tables.arrowOf? question = some arrow ∧
          (missingFor s.tables arrow scope).isEmpty = false := by
  unfold submit at h
  obtain ⟨_, asked, h⟩ := (unhindered_query _).of_bind (reads_query _) h hinders
  obtain ⟨rfl, -⟩ := yields_query.mp asked
  obtain ⟨q, found, h⟩ := (unhindered_orRefuse rfl _).of_bind (reads_orRefuse _ _) h hinders
  obtain ⟨hq, -⟩ := yields_orRefuse.mp found
  have hid := Tables.id_of_question? hq
  obtain ⟨rules, -, h⟩ := (unhindered_ofColumns _ _ _).of_bind (reads_orFail _) h hinders
  obtain ⟨scope, acting, h⟩ :=
    (unhindered_resolveScope _ _ _).of_bind (reads_resolveScope _ _ _) h hinders
  obtain ⟨_, asked, h⟩ := (unhindered_query _).of_bind (reads_query _) h hinders
  obtain ⟨rfl, -⟩ := yields_query.mp asked
  rcases error_bind h with checked | ⟨_, s₁, -, later⟩
  · obtain ⟨arrow, harrow, missing⟩ := error_checkPrerequisites checked
    exact ⟨q, hq, scope, acting, arrow, hid ▸ harrow, missing⟩
  · refine absurd ((unhindered_require _ _ _).bind (fun _ => ?_) s₁ e s' later) (by simp [hinders])
    refine (unhindered_query _).bind fun accepted => Unhindered.atomic ?_
    refine (unhindered_storeAnswer _ _ _ _ _ _ _ _).bind fun a => ?_
    have filed : (storeFiles now a.id sub.files).Unhindered :=
      (unhindered_checkTexts _).bind fun _ => unhindered_insert .fail _
    refine filed.bind fun files => ?_
    dsimp only
    split
    · exact (unhindered_resolveArrow _ _ _).bind fun r => unhindered_pure _
    · exact unhindered_pure _

end Action

end LearningMap
