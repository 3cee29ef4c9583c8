import LearningMap.Store.Basic
import Mathlib

/-!
# Outcomes of operations

An operation yields a value and a store, or it fails. `Action.Yields` is the first of these and is
read off an operation step by step. What holds in both cases is told as a relation between the
stores before and after (`Action.Respects`), and is put together from the steps as well.
-/

namespace LearningMap

namespace Store

/-- A relation that is kept by doing nothing, by one operation after another, and by undoing what an
operation did to the rows. -/
structure Composes (R : Store → Store → Prop) : Prop where
  refl : ∀ s, R s s
  trans : ∀ {s s₁ s₂}, R s s₁ → R s₁ s₂ → R s s₂
  undo : ∀ {s s₁}, R s s₁ → R s { s₁ with tables := s.tables }

/-- No table hands out an identifier again: the last ones never go back. -/
def Ahead (s s' : Store) : Prop := ∀ k, s.last k ≤ s'.last k

theorem composes_ahead : Composes Ahead where
  refl _ _ := Int.le_refl _
  trans h h' k := Int.le_trans (h k) (h' k)
  undo h := h

end Store

namespace Action

/-- From a store, an operation succeeds with a value and leaves a store. -/
def Yields {α : Type} (act : Action α) (s : Store) (a : α) (s' : Store) : Prop :=
  act s = (.ok a, s')

section Yields

variable {α β : Type} {s s' : Store}

theorem exists_yields_of_isOk (act : Action α) (s : Store) (h : (act s).1.isOk = true) :
    ∃ a s', act.Yields s a s' := by
  rcases hact : act s with ⟨e | a, s'⟩
  · rw [hact] at h
    cases h
  · exact ⟨a, s', hact⟩

/-- What is evaluated of the value of an operation is read off the value that it yields. -/
theorem exists_yields_of_map {act : Action α} {f : α → β} {b : β}
    (h : (act s).1.map f = .ok b) : ∃ a, act.Yields s a (act s).2 ∧ f a = b := by
  rcases hact : act s with ⟨e | a, s'⟩
  · rw [hact] at h
    cases h
  · rw [hact] at h
    exact ⟨a, hact, Except.ok.inj h⟩

theorem Yields.value_eq {act : Action α} {a b : α} {s₁ : Store} (h : act.Yields s a s')
    (h' : act.Yields s b s₁) : a = b :=
  Except.ok.inj (Prod.mk.inj (h.symm.trans h')).1

@[simp] theorem yields_pure {a b : α} : (pure a : Action α).Yields s b s' ↔ a = b ∧ s = s' := by
  constructor
  · intro h
    cases h
    exact ⟨rfl, rfl⟩
  · rintro ⟨rfl, rfl⟩
    rfl

theorem bind_of_ok {x : Action α} {f : α → Action β} {a : α} (h : x s = (.ok a, s')) :
    (x >>= f) s = f a s' := by
  change (match x s with | (r, s₁) => ExceptT.bindCont f r s₁) = _
  rw [h]
  rfl

theorem bind_of_error {x : Action α} {f : α → Action β} {e : Failure} (h : x s = (.error e, s')) :
    (x >>= f) s = (.error e, s') := by
  change (match x s with | (r, s₁) => ExceptT.bindCont f r s₁) = _
  rw [h]
  rfl

@[simp] theorem yields_bind {x : Action α} {f : α → Action β} {b : β} :
    (x >>= f).Yields s b s' ↔ ∃ a s₁, x.Yields s a s₁ ∧ (f a).Yields s₁ b s' := by
  unfold Yields
  rcases hx : x s with ⟨e | a, s₁⟩
  · rw [bind_of_error hx]
    constructor
    · intro h
      cases h
    · rintro ⟨_, _, h, _⟩
      cases h
  · rw [bind_of_ok hx]
    constructor
    · intro h
      exact ⟨a, s₁, rfl, h⟩
    · rintro ⟨_, _, h, h'⟩
      cases h
      exact h'

/-- A sequence fails with its first or its second operation. -/
theorem error_bind {x : Action α} {f : α → Action β} {e : Failure} (h : (x >>= f) s = (.error e, s')) :
    x s = (.error e, s') ∨ ∃ a s₁, x.Yields s a s₁ ∧ f a s₁ = (.error e, s') := by
  rcases hx : x s with ⟨e' | a, s₁⟩
  · rw [bind_of_error hx] at h
    cases h
    exact .inl rfl
  · rw [bind_of_ok hx] at h
    exact .inr ⟨a, s₁, hx, h⟩

@[simp] theorem yields_query {f : Tables → α} {a : α} :
    (query f).Yields s a s' ↔ f s.tables = a ∧ s = s' := by
  constructor
  · intro h
    cases h
    exact ⟨rfl, rfl⟩
  · rintro ⟨rfl, rfl⟩
    rfl

@[simp] theorem not_yields_throw {e : Failure} {a : α} :
    ¬ (throw e : Action α).Yields s a s' := by
  intro h
  cases h

@[simp] theorem not_yields_refuse {cause : Refusal} {a : α} :
    ¬ (refuse cause : Action α).Yields s a s' :=
  not_yields_throw

@[simp] theorem not_yields_reject {fault : DatabaseFault} {a : α} :
    ¬ (reject fault : Action α).Yields s a s' :=
  not_yields_throw

@[simp] theorem yields_orRefuse {cause : Refusal} {o : Option α} {a : α} :
    (orRefuse cause o).Yields s a s' ↔ o = some a ∧ s = s' := by
  cases o with
  | none => simp [orRefuse]
  | some b => simp [orRefuse]

@[simp] theorem yields_atomic {act : Action α} {a : α} :
    act.atomic.Yields s a s' ↔ act.Yields s a s' := by
  unfold Yields atomic
  rcases act s with ⟨e | b, s₁⟩
  · constructor <;> intro h <;> cases h
  · exact Iff.rfl

end Yields

def Reads {α : Type} (act : Action α) : Prop := ∀ s, (act s).2 = s

/-- An operation after which the store stands in a relation to the store before, whether it succeeds
or fails. -/
def Respects {α : Type} (R : Store → Store → Prop) (act : Action α) : Prop := ∀ s, R s (act s).2

/-- An operation that leaves all rows as they were when it fails. -/
def Undoes {α : Type} (act : Action α) : Prop :=
  ∀ s e s', act s = (.error e, s') → s'.tables = s.tables

section Effects

variable {α β : Type}

theorem reads_pure (a : α) : (pure a : Action α).Reads := fun _ => rfl

theorem reads_throw (e : Failure) : (throw e : Action α).Reads := fun _ => rfl

theorem reads_query (f : Tables → α) : (query f).Reads := fun _ => rfl

theorem reads_orRefuse (cause : Refusal) (o : Option α) : (orRefuse cause o).Reads := by
  cases o with
  | none => exact reads_throw _
  | some a => exact reads_pure a

theorem reads_checkTexts (texts : List String) : (checkTexts texts).Reads := by
  unfold checkTexts
  split
  · exact reads_throw _
  · exact reads_pure ()

theorem Reads.bind {x : Action α} {f : α → Action β} (hx : x.Reads) (hf : ∀ a, (f a).Reads) :
    (x >>= f).Reads := by
  intro s
  have first := hx s
  rcases h : x s with ⟨e | a, s₁⟩
  · rw [bind_of_error h]
    simpa [h] using first
  · rw [bind_of_ok h, hf a s₁]
    simpa [h] using first

theorem Reads.store_eq {act : Action α} (h : act.Reads) {s s' : Store} {a : α}
    (done : act.Yields s a s') : s = s' := by
  have same := h s
  rw [show act s = _ from done] at same
  exact same.symm

theorem Reads.store_eq_of_error {act : Action α} (h : act.Reads) {s s' : Store} {e : Failure}
    (failed : act s = (.error e, s')) : s = s' := by
  have same := h s
  rw [failed] at same
  exact same.symm

theorem Reads.yields_bind {x : Action α} {f : α → Action β} (hx : x.Reads) {s s' : Store} {b : β} :
    (x >>= f).Yields s b s' ↔ ∃ a, x.Yields s a s ∧ (f a).Yields s b s' := by
  rw [Action.yields_bind]
  constructor
  · rintro ⟨a, s₁, first, done⟩
    obtain rfl := hx.store_eq first
    exact ⟨a, first, done⟩
  · rintro ⟨a, first, done⟩
    exact ⟨a, s, first, done⟩

theorem yields_query_bind {f : Tables → α} {g : α → Action β} {s s' : Store} {b : β} :
    (query f >>= g).Yields s b s' ↔ (g (f s.tables)).Yields s b s' := by
  rw [(reads_query f).yields_bind]
  simp

theorem yields_orRefuse_bind {cause : Refusal} {o : Option α} {g : α → Action β} {s s' : Store}
    {b : β} : (orRefuse cause o >>= g).Yields s b s' ↔ ∃ a, o = some a ∧ (g a).Yields s b s' := by
  rw [(reads_orRefuse cause o).yields_bind]
  simp

section Respects

variable {R : Store → Store → Prop} (composes : Store.Composes R)
include composes

theorem Reads.respects {act : Action α} (h : act.Reads) : act.Respects R := by
  intro s
  rw [h s]
  exact composes.refl s

theorem Respects.bind {x : Action α} {f : α → Action β} (hx : x.Respects R)
    (hf : ∀ a, (f a).Respects R) : (x >>= f).Respects R := by
  intro s
  have first := hx s
  rcases h : x s with ⟨e | a, s₁⟩
  · rw [bind_of_error h]
    simpa [h] using first
  · rw [bind_of_ok h]
    rw [h] at first
    exact composes.trans first (hf a s₁)

theorem Reads.bind_respects {x : Action α} {f : α → Action β} (hx : x.Reads)
    (hf : ∀ a, (f a).Respects R) : (x >>= f).Respects R :=
  (hx.respects composes).bind composes hf

theorem Respects.atomic {act : Action α} (h : act.Respects R) : act.atomic.Respects R := by
  intro s
  have related := h s
  unfold Action.atomic
  rcases hact : act s with ⟨e | a, s₁⟩
  · rw [hact] at related
    exact composes.undo related
  · rw [hact] at related
    exact related

end Respects

theorem Respects.of_yields {R : Store → Store → Prop} {act : Action α} (h : act.Respects R)
    {s s' : Store} {a : α} (done : act.Yields s a s') : R s s' := by
  have related := h s
  rwa [show act s = _ from done] at related

theorem undoes_atomic (act : Action α) : act.atomic.Undoes := by
  intro s e s' h
  unfold Action.atomic at h
  rcases hact : act s with ⟨e' | a, s₁⟩
  · rw [hact] at h
    cases h
    rfl
  · rw [hact] at h
    cases h

theorem Reads.bind_undoes {x : Action α} {f : α → Action β} (hx : x.Reads)
    (hf : ∀ a, (f a).Undoes) : (x >>= f).Undoes := by
  intro s e s' h
  have first := hx s
  rcases hxs : x s with ⟨e' | a, s₁⟩
  · rw [bind_of_error hxs] at h
    rw [hxs] at first
    cases h
    exact congrArg Store.tables first
  · rw [bind_of_ok hxs] at h
    rw [hxs] at first
    rw [hf a s₁ e s' h]
    exact congrArg Store.tables first

end Effects

end Action

end LearningMap
