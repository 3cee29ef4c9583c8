import LearningMap.Json.Record

/-!
# What a record tells of the object it was read from

Each field of a record stands for a part of what is read. When an object has been read to its end,
such a part is as it was at the start and no member has the name of the field; or one member has the
name, its value has the shape of the field, and the part tells that value. A second member of the
name is a fault, so the names of fields tell what is in an object without a doubt.
-/

namespace LearningMap

theorem exists_of_bind_eq_ok {ε α β : Type} {x : Except ε α} {f : α → Except ε β} {b : β}
    (h : x >>= f = .ok b) : ∃ a, x = .ok a ∧ f a = .ok b := by
  cases x with
  | error e => cases h
  | ok a => exact ⟨a, rfl, h⟩

namespace Json

def named (name : String) (members : List (Option String × Draft)) : List Draft :=
  (members.filter (·.1 == some name)).map (·.2)

theorem named_cons_self (name : String) (d : Draft) (members : List (Option String × Draft)) :
    named name ((some name, d) :: members) = d :: named name members := by
  simp [named]

theorem named_cons_of_ne {name : String} {k : Option String} (other : k ≠ some name) (d : Draft)
    (members : List (Option String × Draft)) :
    named name ((k, d) :: members) = named name members := by
  simp [named, other]

namespace Reader

variable {σ α β : Type} {fields : List (Field σ)} {name : String} {read : Reader α}
  {put : α → σ → σ} {view : σ → β} {tell : α → β}

@[simp] theorem name_field (name : String) (read : Reader α) (put : α → σ → σ) :
    (field name read put).name = name := rfl

theorem read_field_eq_ok {d : Draft} {s t : σ} (done : (field name read put).read d s = .ok t) :
    ∃ v, read d = .ok v ∧ put v s = t := by
  simp only [field] at done
  cases value : read d with
  | error fault => rw [value] at done; cases done
  | ok v =>
    rw [value] at done
    exact ⟨v, rfl, Except.ok.inj done⟩

/-- A field changes nothing in a part of what is read. -/
def Field.Leaves (f : Field σ) (view : σ → β) : Prop :=
  ∀ d s t, f.read d s = .ok t → view t = view s

theorem leaves_field (keeps : ∀ v s, view (put v s) = view s) :
    (field name read put).Leaves view := by
  intro d s t done
  obtain ⟨v, -, rfl⟩ := read_field_eq_ok done
  exact keeps v s

/-- A part of what is read is told by one field alone. -/
structure Tells (fields : List (Field σ)) (name : String) (read : Reader α) (view : σ → β)
    (tell : α → β) : Prop where
  own : ∃ put, fields.find? (·.name == name) = some (field name read put) ∧
    ∀ v s, view (put v s) = tell v
  others : ∀ f ∈ fields, f.name = name ∨ f.Leaves view

theorem members_tell (h : Tells fields name read view tell) {seen : List String} {s t : σ}
    {ms : List (Option String × Draft)} (done : members fields seen s ms = .ok t) :
    named name ms = [] ∧ view t = view s ∨
      name ∉ seen ∧ ∃ d v, named name ms = [d] ∧ read d = .ok v ∧ view t = tell v := by
  obtain ⟨put, own, tells⟩ := h.own
  induction ms generalizing seen s with
  | nil => exact .inl ⟨rfl, by rw [Except.ok.inj done]⟩
  | cons m ms ih =>
    obtain ⟨k, value⟩ := m
    cases k with
    | none => cases done
    | some k =>
      simp only [members] at done
      cases found : fields.find? (·.name == k) with
      | none =>
        rw [found] at done
        have other : some k ≠ some name := by
          rintro ⟨⟩
          rw [own] at found
          cases found
        rw [named_cons_of_ne other]
        exact ih done
      | some f =>
        rw [found] at done
        dsimp only at done
        split at done
        · cases done
        next fresh =>
          obtain ⟨u, step, rest⟩ := exists_of_bind_eq_ok done
          by_cases same : k = name
          · subst same
            obtain rfl := Option.some.inj (own.symm.trans found)
            obtain ⟨v, told, rfl⟩ := read_field_eq_ok step
            -- A second member of the name would have met the first one among those seen.
            rcases ih rest with ⟨none, kept⟩ | ⟨unseen, -⟩
            · refine .inr ⟨by simpa using fresh, value, v, ?_, told, ?_⟩
              · rw [named_cons_self, none]
              · rw [kept, tells]
            · exact absurd List.mem_cons_self unseen
          · have other : some k ≠ some name := fun eq => same (Option.some.inj eq)
            have leaves : f.Leaves view := by
              refine (h.others f (List.mem_of_find?_eq_some found)).resolve_left ?_
              have called : f.name = k := by simpa using List.find?_some found
              rwa [called]
            rw [named_cons_of_ne other]
            rcases ih rest with ⟨none, kept⟩ | ⟨unseen, told⟩
            · exact .inl ⟨none, kept.trans (leaves value s u step)⟩
            · exact .inr ⟨fun seen => unseen (List.mem_cons_of_mem k seen), told⟩

/-- A part that a record cannot do without is told by the one member of its name. -/
theorem named_of_tells {tell : α → Option β} {view : σ → Option β}
    (h : Tells fields name read view tell) {start t : σ} {ms : List (Option String × Draft)}
    (nothing : view start = none) (done : members fields [] start ms = .ok t) {b : β}
    (told : view t = some b) : ∃ d v, named name ms = [d] ∧ read d = .ok v ∧ tell v = some b := by
  rcases members_tell h done with ⟨-, kept⟩ | ⟨-, d, v, once, value, tells⟩
  · rw [kept, nothing] at told
    cases told
  · exact ⟨d, v, once, value, tells.symm.trans told⟩

theorem id_eq_ok {d : Draft} {n : Id} (h : id d = .ok n) :
    d = .num (.ok (.whole n)) ∧ Id.fits n = true := by
  unfold id at h
  split at h
  next m =>
    split at h
    next fits =>
      obtain rfl := Except.ok.inj h
      exact ⟨rfl, fits⟩
    next => cases h
  next => cases h

theorem text_eq_ok {d : Draft} {s : String} (h : text d = .ok s) : d = .str (.ok s) := by
  unfold text at h
  split at h
  next u => rw [Except.ok.inj h]
  next => cases h

theorem read_last_of_items {ds : List Draft} {s t : σ} (done : items s fields ds = .ok t)
    (same : ds.length = fields.length) {f : Field σ} (last : fields.getLast? = some f) {d : Draft}
    (last_value : ds.getLast? = some d) : ∃ u, f.read d u = .ok t := by
  induction fields generalizing ds s with
  | nil => cases last
  | cons g fields ih =>
    obtain _ | ⟨e, ds⟩ := ds
    · cases last_value
    obtain ⟨u, first, others⟩ := exists_of_bind_eq_ok done
    rw [List.length_cons, List.length_cons, Nat.succ_inj] at same
    cases fields with
    | nil =>
      obtain rfl := List.length_eq_zero_iff.mp same
      obtain rfl := Option.some.inj last
      obtain rfl := Option.some.inj last_value
      obtain rfl := Except.ok.inj others
      exact ⟨s, first⟩
    | cons g' fields =>
      obtain _ | ⟨e', ds⟩ := ds
      · cases same
      rw [List.getLast?_cons_cons] at last last_value
      exact ih others same last last_value

/-- A record has been read from a whole object, or from a whole list of as many values as it has
fields. -/
theorem record_eq_ok {start : σ} {finish : σ → Option α} {d : Draft} {a : α}
    (done : record fields start finish d = .ok a) :
    ∃ t, finish t = some a ∧
      ((∃ ms, d = .obj ms true ∧ members fields [] start ms = .ok t) ∨
        ∃ ds, d = .arr ds true ∧ ds.length = fields.length ∧ items start fields ds = .ok t) := by
  have finished : ∀ {t : σ}, (finish t).elim (Except.error Fault.mismatch) Except.ok = .ok a →
      finish t = some a := by
    intro t told
    cases result : finish t with
    | none => rw [result] at told; cases told
    | some b => rw [result] at told; rw [← Except.ok.inj told]
  unfold record at done
  split at done
  next ms closed =>
    obtain ⟨t, read, told⟩ := exists_of_bind_eq_ok done
    cases closed with
    | false => cases told
    | true => exact ⟨t, finished told, .inl ⟨ms, rfl, read⟩⟩
  next ds closed =>
    obtain ⟨t, read, told⟩ := exists_of_bind_eq_ok done
    cases closed with
    | false => cases told
    | true =>
      simp only [Bool.not_true, Bool.false_or, decide_eq_true_eq] at told
      split at told
      · cases told
      split at told
      · cases told
      · exact ⟨t, finished told, .inr ⟨ds, rfl, by omega, read⟩⟩
  next => cases done

end Reader

end Json

end LearningMap
