import LearningMap.Pattern.Parser
import LearningMap.Proofs.Pattern.Closing
import Mathlib.Data.List.TakeWhile

/-!
# Classes with one closing parenthesis more

A class is read as before when a closing parenthesis is put after the text, and a class that does not
end before the parenthesis does not end there either.
-/

namespace LearningMap.Pattern

open Unicode (CharSet)

variable {f : Flags}

/-- No more is left than the parenthesis. -/
def AlmostEnd {α : Type} (_ : α) (rest : Chars) : Prop := rest = [] ∨ rest = [')']

theorem length_classItem_lt {cs rest : Chars} {p : Primitive}
    (h : classItem f cs = some (p, rest)) : rest.length < cs.length := by
  unfold classItem at h
  split at h
  · exact Nat.lt_succ_of_lt (Flags.length_escape_le h)
  · cases h
    exact Nat.lt_succ_self _
  · cases h

theorem extends_classItem (f : Flags) (cs : Chars) :
    Extends f.Unfinished (classItem f cs) (classItem f (cs ++ [')'])) := by
  rcases cs with _ | ⟨c, cs⟩
  · exact Extends.late (Primitive.literal ')' false) [] (Or.inl rfl)
  by_cases slash : c = '\\'
  · subst slash
    exact f.extends_escape cs
  · unfold classItem
    simp only [List.cons_append]
    exact .left (Primitive.literal c false) cs

/-- Whether a caret stands ahead, and what follows it. -/
def caret (cs : Chars) : Bool × Chars :=
  match cs with
  | '^' :: rest => (true, rest)
  | rest => (false, rest)

theorem caret_of_ne {cs : Chars} (other : ∀ rest, cs ≠ '^' :: rest) : caret cs = (false, cs) := by
  unfold caret
  split
  next rest => exact absurd rfl (other rest)
  next => rfl

theorem caret_append (cs : Chars) :
    caret (cs ++ [')']) = ((caret cs).1, (caret cs).2 ++ [')']) := by
  by_cases ahead : ∃ rest, cs = '^' :: rest
  · obtain ⟨rest, rfl⟩ := ahead
    rfl
  · have other (rest : Chars) : cs ≠ '^' :: rest := fun same => ahead ⟨rest, same⟩
    rw [caret_of_ne other, caret_of_ne (ne_cons_append (by decide) other)]

theorem length_caret_le (cs : Chars) : (caret cs).2.length ≤ cs.length := by
  unfold caret
  split
  · exact Nat.le_succ _
  · exact Nat.le_refl _

/-- A name up to a colon, with what it stands for. -/
def namedClass (f : Flags) (negated : Bool) (cs : Chars) : Option (Option CharSet × Chars) :=
  match cs.drop (cs.takeWhile (· ≠ ':')).length with
  | ':' :: ']' :: rest =>
    (Unicode.asciiNamed? (cs.takeWhile (· ≠ ':'))).map fun s => (f.negate negated (f.fold s), rest)
  | _ => none

theorem asciiClass?_colon (f : Flags) (rest : Chars) :
    asciiClass? f (':' :: rest) = namedClass f (caret rest).1 (caret rest).2 := rfl

theorem asciiClass?_of_ne {cs : Chars} (other : ∀ rest, cs ≠ ':' :: rest) :
    asciiClass? f cs = none := by
  unfold asciiClass?
  split
  next rest => exact absurd rfl (other rest)
  next => rfl

theorem length_namedClass_lt {negated : Bool} {cs rest : Chars} {o : Option CharSet}
    (h : namedClass f negated cs = some (o, rest)) : rest.length < cs.length := by
  unfold namedClass at h
  split at h
  next rest' ahead =>
    have found := congrArg List.length ahead
    obtain ⟨s, -, same⟩ := Option.map_eq_some_iff.mp h
    cases same
    simp only [List.length_drop, List.length_cons] at found
    omega
  next => cases h

theorem extends_namedClass (f : Flags) (negated : Bool) (cs : Chars) :
    Extends Never (namedClass f negated cs) (namedClass f negated (cs ++ [')'])) := by
  unfold namedClass
  rcases takeWhile_ne_append ':' (by decide) cs with
    ⟨rest, ahead, same, ahead'⟩ | ⟨none_left, none_left'⟩
  · rw [same, ahead, ahead']
    rcases rest with _ | ⟨c, rest⟩
    · exact .fails
    by_cases bracket : c = ']'
    · subst bracket
      simp only [List.cons_append]
      cases Unicode.asciiNamed? (cs.takeWhile (· ≠ ':')) with
      | none => exact .fails
      | some s => exact .left (f.negate negated (f.fold s)) rest
    · have other (rest : Chars) : ':' :: c :: rest ≠ ':' :: ']' :: rest := by simp [bracket]
      simp only [List.cons_append]
      split
      next same => simp [bracket] at same
      next =>
        split
        next same => simp [bracket] at same
        next => exact .fails
  · rw [none_left, none_left']
    exact .fails

theorem length_asciiClass?_lt {cs rest : Chars} {o : Option CharSet}
    (h : asciiClass? f cs = some (o, rest)) : rest.length < cs.length := by
  by_cases colon : ∃ more, cs = ':' :: more
  · obtain ⟨more, rfl⟩ := colon
    have := length_namedClass_lt (asciiClass?_colon f more ▸ h)
    have := length_caret_le more
    simp only [List.length_cons]
    omega
  · rw [asciiClass?_of_ne fun rest same => colon ⟨rest, same⟩] at h
    cases h

theorem extends_asciiClass? (f : Flags) (cs : Chars) :
    Extends Never (asciiClass? f cs) (asciiClass? f (cs ++ [')'])) := by
  by_cases colon : ∃ more, cs = ':' :: more
  · obtain ⟨more, rfl⟩ := colon
    rw [List.cons_append, asciiClass?_colon, asciiClass?_colon, caret_append]
    exact extends_namedClass f _ _
  · have other (rest : Chars) : cs ≠ ':' :: rest := fun same => colon ⟨rest, same⟩
    rw [asciiClass?_of_ne other, asciiClass?_of_ne (ne_cons_append (by decide) other)]
    exact .fails

/-- What follows an opening bracket, once it is known whether the class is negated. -/
def openedClass (f : Flags) (negated : Bool) (cs : Chars) : Option (ClassLevel × Chars) :=
  let (hyphens, cs) := f.takeWhile (· = '-') cs
  let level := hyphens.foldl (fun l c => l.add ⟨.single c.toNat, 0⟩) (.start negated)
  match hyphens, cs with
  | [], ']' :: rest =>
    let rest := f.pass rest
    if rest.isEmpty then none else some (level.add ⟨.single ']'.toNat, 0⟩, rest)
  | _, [] => none
  | _, cs => some (level, cs)

theorem openClass_of_caret {cs rest : Chars} (ahead : f.pass cs = '^' :: rest) :
    openClass f cs = openedClass f true (f.pass rest) := by
  unfold openClass
  rw [ahead]
  rfl

theorem openClass_of_ne {cs : Chars} (other : ∀ rest, f.pass cs ≠ '^' :: rest) :
    openClass f cs = openedClass f false (f.pass cs) := by
  unfold openClass
  split
  next ahead =>
    split at ahead
    next rest ahead' => exact absurd ahead' (other rest)
    next =>
      obtain ⟨rfl, rfl⟩ := Prod.mk.inj ahead
      rfl

theorem length_openedClass_le {negated : Bool} {cs rest : Chars} {l : ClassLevel}
    (h : openedClass f negated cs = some (l, rest)) : rest.length ≤ cs.length := by
  have hyphens := f.length_takeWhile_le (· = '-') cs
  unfold openedClass at h
  dsimp only at h
  split at h
  next rest' none_taken ahead =>
    have := f.length_pass_le rest'
    rw [ahead, List.length_cons] at hyphens
    split at h
    · cases h
    · cases h
      omega
  next => cases h
  next =>
    cases h
    exact hyphens

theorem extends_openedClass (f : Flags) (negated : Bool) (cs : Chars) :
    Extends AlmostEnd (openedClass f negated cs) (openedClass f negated (cs ++ [')'])) := by
  have bracket (level : ClassLevel) (rest : Chars) : Extends AlmostEnd
      (if (f.pass rest).isEmpty then none else some (level, f.pass rest))
      (if (f.pass (rest ++ [')'])).isEmpty then none else some (level, f.pass (rest ++ [')']))) := by
    rcases f.pass_append rest with left | ⟨none_left, passed⟩
    · rw [left]
      cases f.pass rest with
      | nil => exact .late level [')'] (.inr rfl)
      | cons c rest => exact .left level (c :: rest)
    · rw [none_left, passed]
      exact .fails
  have hyphens := f.extends_takeWhile (t := (· = '-')) (by decide) cs
  unfold openedClass
  generalize f.takeWhile (· = '-') cs = x at hyphens ⊢
  generalize f.takeWhile (· = '-') (cs ++ [')']) = y at hyphens ⊢
  cases hyphens with
  | passed hyphens => cases hyphens <;> exact .fails
  | left hyphens rest =>
    dsimp only
    generalize List.foldl _ (ClassLevel.start negated) hyphens = level
    rcases rest with _ | ⟨c, rest⟩
    · cases hyphens <;> exact .late level [')'] (.inr rfl)
    simp only [List.cons_append]
    cases hyphens with
    | cons => exact .left level (c :: rest)
    | nil =>
      by_cases closing : c = ']'
      · subst closing
        exact bracket _ rest
      · split
        next same => exact absurd (List.cons.inj same).1 closing
        next same => cases same
        next =>
          split
          next same => exact absurd (List.cons.inj same).1 closing
          next same => cases same
          next => exact .left level (c :: rest)

theorem length_openClass_le {cs rest : Chars} {l : ClassLevel}
    (h : openClass f cs = some (l, rest)) : rest.length ≤ cs.length := by
  have pass := f.length_pass_le cs
  by_cases caret : ∃ rest, f.pass cs = '^' :: rest
  · obtain ⟨rest', ahead⟩ := caret
    have := f.length_pass_le rest'
    have := length_openedClass_le (openClass_of_caret ahead ▸ h)
    rw [ahead, List.length_cons] at pass
    omega
  · have := length_openedClass_le (openClass_of_ne (fun rest same => caret ⟨rest, same⟩) ▸ h)
    omega

theorem openedClass_nil (f : Flags) (negated : Bool) : openedClass f negated [] = none := by
  rw [openedClass, Flags.takeWhile]

theorem extends_openClass (f : Flags) (cs : Chars) :
    Extends AlmostEnd (openClass f cs) (openClass f (cs ++ [')'])) := by
  have none_read (negated : Bool) : Extends AlmostEnd (openedClass f negated [])
      (openedClass f negated []) := by
    rw [openedClass_nil]
    exact .fails
  rcases f.pass_append cs with left | ⟨none_left, passed⟩
  · by_cases caret : ∃ rest, f.pass cs = '^' :: rest
    · obtain ⟨rest, ahead⟩ := caret
      rw [openClass_of_caret ahead, openClass_of_caret (by rw [left, ahead]; rfl)]
      exact .after_pass f (extends_openedClass f true _) (none_read true)
    · have other (rest : Chars) : f.pass cs ≠ '^' :: rest := fun same => caret ⟨rest, same⟩
      rw [openClass_of_ne other, openClass_of_ne (left ▸ ne_cons_append (by decide) other), left]
      exact extends_openedClass f false _
  · rw [openClass_of_ne (by simp [none_left]), openClass_of_ne (by simp [passed]), none_left, passed]
    exact none_read false

/-- A range between two items, which have to be characters. -/
def rangeBetween (f : Flags) (first second : Primitive) (rest : Chars) : Option (CharSet × Chars) :=
  match first, second with
  | .literal a _, .literal b _ => do
    let _ ← f.classLiteral a
    let _ ← f.classLiteral b
    if a ≤ b then pure (⟨[(a.toNat, b.toNat)]⟩, rest) else none
  | _, _ => none

/-- What follows the first item. -/
def rangeAfter (f : Flags) (first : Primitive) (cs : Chars) : Option (CharSet × Chars) :=
  match cs with
  | [] => none
  | '-' :: more =>
    if f.peek? more = some ']' ∨ f.peek? more = some '-' then do pure (← first.set? f, cs)
    else (classItem f (f.pass more)).bind fun (second, rest) => rangeBetween f first second rest
  | _ => do pure (← first.set? f, cs)

theorem classRange_eq (f : Flags) (cs : Chars) :
    classRange f cs =
      (classItem f cs).bind fun (first, rest) => rangeAfter f first (f.pass rest) := rfl

theorem rest_of_rangeBetween {first second : Primitive} {r rest : Chars} {s : CharSet}
    (h : rangeBetween f first second r = some (s, rest)) : rest = r := by
  unfold rangeBetween at h
  split at h
  · obtain ⟨a, -, h⟩ := Option.bind_eq_some_iff.mp h
    obtain ⟨b, -, h⟩ := Option.bind_eq_some_iff.mp h
    split at h <;> cases h
    rfl
  · cases h

theorem extends_rangeBetween (f : Flags) (first second : Primitive) (rest : Chars) :
    Extends AtEnd (rangeBetween f first second rest)
      (rangeBetween f first second (rest ++ [')'])) := by
  unfold rangeBetween
  split
  next a _ b _ =>
    cases f.classLiteral a with
    | none => exact .fails
    | some s =>
      cases f.classLiteral b with
      | none => exact .fails
      | some t =>
        simp only [Option.bind_eq_bind, Option.bind_some]
        split
        · exact .left _ rest
        · exact .fails
  next => exact .fails

theorem length_rangeAfter_le {first : Primitive} {cs rest : Chars} {s : CharSet}
    (h : rangeAfter f first cs = some (s, rest)) : rest.length ≤ cs.length := by
  have alone (h : (do pure (← first.set? f, cs)) = some (s, rest)) : rest.length ≤ cs.length := by
    obtain ⟨s, -, same⟩ := Option.bind_eq_some_iff.mp h
    cases same
    exact Nat.le_refl _
  unfold rangeAfter at h
  split at h
  · cases h
  next more =>
    split at h
    · exact alone h
    · obtain ⟨⟨second, rest'⟩, read, h⟩ := Option.bind_eq_some_iff.mp h
      obtain rfl := rest_of_rangeBetween h
      have := length_classItem_lt read
      have := f.length_pass_le more
      simp only [List.length_cons]
      omega
  · exact alone h

theorem length_classRange_lt {cs rest : Chars} {s : CharSet}
    (h : classRange f cs = some (s, rest)) : rest.length < cs.length := by
  rw [classRange_eq] at h
  obtain ⟨⟨first, rest'⟩, read, h⟩ := Option.bind_eq_some_iff.mp h
  have := length_classItem_lt read
  have := f.length_pass_le rest'
  have := length_rangeAfter_le h
  omega

theorem passBlanks_dropWhile (cs : Chars) : passBlanks (cs.dropWhile isBlank) = passBlanks cs := by
  induction cs with
  | nil => rfl
  | cons c cs ih =>
    by_cases blank : isBlank c = true
    · rw [List.dropWhile_cons_of_pos blank, ih]
      conv_rhs => rw [passBlanks, if_pos blank]
    · rw [List.dropWhile_cons_of_neg blank]

/-- A number sign and blanks are a comment, or blanks after one. -/
theorem passBlanks_number {rest : Chars} (blanks : rest.dropWhile isBlank = []) :
    passBlanks ('#' :: rest) = [] := by
  have solid : isBlank '#' = false := by decide
  have after : (afterComment rest).dropWhile isBlank = [] := by
    rw [List.dropWhile_eq_nil_iff] at blanks ⊢
    exact fun c mem => blanks c ((List.dropWhile_sublist _).subset (List.mem_of_mem_drop mem))
  rw [passBlanks, if_neg (by simp [solid]), if_pos rfl, ← passBlanks_dropWhile, after,
    passBlanks_nil]

/-- The next sign is the same, unless nothing follows but blanks, or a number sign and blanks. -/
theorem Flags.peek?_append (f : Flags) (cs : Chars) :
    f.peek? (cs ++ [')']) = f.peek? cs ∨
      f.peek? cs = none ∧ f.peek? (cs ++ [')']) = some ')' ∧ f.pass cs = [] := by
  unfold peek? pass
  split
  case isFalse => cases cs <;> simp
  rw [dropWhile_isBlank_append, ← passBlanks_dropWhile cs]
  rcases cs.dropWhile isBlank with _ | ⟨c, rest⟩
  · exact .inr ⟨rfl, rfl, passBlanks_nil⟩
  by_cases number : c = '#'
  · subst number
    simp only [List.cons_append, dropWhile_isBlank_append]
    cases blanks : rest.dropWhile isBlank with
    | nil => exact .inr ⟨rfl, rfl, passBlanks_number blanks⟩
    | cons => exact .inl rfl
  · simp only [List.cons_append]
    split
    next same => exact absurd (List.cons.inj same).1 number
    next =>
      split
      next same => exact absurd (List.cons.inj same).1 number
      next => exact .inl rfl

theorem rangeAfter_of_ne {c : Char} (other : c ≠ '-') (first : Primitive) (cs : Chars) :
    rangeAfter f first (c :: cs) = (first.set? f).map (·, c :: cs) := by
  unfold rangeAfter
  split
  next same => cases same
  next same => exact absurd (List.cons.inj same).1 other
  next => cases first.set? f <;> rfl

theorem extends_rangeAfter (f : Flags) (first : Primitive) (cs : Chars) :
    Extends AlmostEnd (rangeAfter f first cs) (rangeAfter f first (cs ++ [')'])) := by
  rcases cs with _ | ⟨c, cs⟩
  · rw [List.nil_append, rangeAfter_of_ne (by decide)]
    cases first.set? f with
    | none => exact .fails
    | some s => exact .late s [')'] (.inr rfl)
  by_cases dash : c = '-'
  case neg =>
    rw [List.cons_append, rangeAfter_of_ne dash, rangeAfter_of_ne dash]
    cases first.set? f with
    | none => exact .fails
    | some s => exact .left s (c :: cs)
  subst dash
  let range (cs : Chars) :=
    (classItem f cs).bind fun (second, rest) => rangeBetween f first second rest
  have second (cs : Chars) : Extends AlmostEnd (range cs) (range (cs ++ [')'])) := by
    refine (extends_classItem f cs).bind
      (fun second rest => (extends_rangeBetween f first second rest).mono fun _ _ => .inl)
      (fun second => .of_nothing fun _ _ h => by rw [rest_of_rangeBetween h]; rfl)
      fun second rest unfinished => ?_
    rcases unfinished with rfl | ⟨⟨l, rfl⟩, -⟩
    · exact (Extends.of_ended fun _ _ h => rest_of_rangeBetween h).mono fun _ _ => .inl
    · cases first <;> exact .fails
  unfold rangeAfter
  simp only [List.cons_append]
  rcases f.peek?_append cs with same | ⟨blank, last, none_left⟩
  · rw [same]
    split
    · cases first.set? f with
      | none => exact .fails
      | some s => exact .left s ('-' :: cs)
    · exact .after_pass (r := range) f (second _) .fails
  · rw [blank, last, if_neg (by decide), if_neg (by decide)]
    exact .after_pass (r := range) f (second _) .fails

theorem extends_classRange (f : Flags) (cs : Chars) :
    Extends AlmostEnd (classRange f cs) (classRange f (cs ++ [')'])) := by
  rw [classRange_eq, classRange_eq]
  refine (extends_classItem f cs).bind (fun first rest => ?_) (fun first => ?_)
    fun first rest h => ?_
  · exact .after_pass f (extends_rangeAfter f first _) .fails
  · simp only [Flags.pass_nil]
    exact .fails
  · rcases h with rfl | ⟨⟨l, rfl⟩, more, rfl, -⟩
    · simp only [Flags.pass_nil]
      exact .fails
    · simp only [Flags.pass_brace]
      exact .fails

/-- What one step of reading a class comes to: the whole class, or the levels that are open then. -/
abbrev ClassStep := ClassPart ⊕ ClassLevel × List ClassLevel

def classStep (f : Flags) (level : ClassLevel) (outer : List ClassLevel) (cs : Chars) :
    Option (ClassStep × Chars) :=
  match cs with
  | '[' :: rest =>
    match asciiClass? f rest with
    | some (some s, rest) => some (.inr (level.add ⟨s, 0⟩, outer), rest)
    | some (none, _) => none
    | none => (openClass f rest).map fun (inner, rest) => (.inr (inner, level :: outer), rest)
  | ']' :: rest =>
    match level.close f, outer with
    | some p, [] => some (.inl p, rest)
    | some p, l :: outer => some (.inr (l.add p, outer), rest)
    | none, _ => none
  | '&' :: '&' :: rest => some (.inr (level.operator f .intersection, outer), rest)
  | '-' :: '-' :: rest => some (.inr (level.operator f .difference, outer), rest)
  | '~' :: '~' :: rest => some (.inr (level.operator f .symmetric, outer), rest)
  | cs => (classRange f cs).map fun (s, rest) => (.inr (level.add ⟨s, 0⟩, outer), rest)

/-- How a class is read on after a step. -/
def readClassOn (f : Flags) (steps : Nat) : ClassStep × Chars → Option (ClassPart × Chars)
  | (.inl p, rest) => some (p, rest)
  | (.inr (level, outer), rest) => readClass f steps level outer rest

theorem readClass_nil {cs : Chars} (ended : f.pass cs = []) (steps : Nat) (level : ClassLevel)
    (outer : List ClassLevel) : readClass f steps level outer cs = none := by
  cases steps <;> simp [readClass, ended]

theorem readClass_succ {cs : Chars} (more : f.pass cs ≠ []) (steps : Nat) (level : ClassLevel)
    (outer : List ClassLevel) :
    readClass f (steps + 1) level outer cs =
      (classStep f level outer (f.pass cs)).bind (readClassOn f steps) := by
  unfold readClass classStep
  generalize f.pass cs = cs at more ⊢
  split
  next same => cases same
  next => contradiction
  next k rest same =>
    obtain rfl := Nat.succ.inj same
    rcases ascii : asciiClass? f rest with _ | ⟨_ | s, rest'⟩
    · cases inner : openClass f rest <;> simp [ascii, inner, readClassOn]
    · simp [ascii]
    · simp [ascii, readClassOn]
  next k rest same =>
    obtain rfl := Nat.succ.inj same
    rcases closed : level.close f with _ | p
    · simp
    · cases outer <;> simp [readClassOn]
  next k rest same =>
    obtain rfl := Nat.succ.inj same
    rfl
  next k rest same =>
    obtain rfl := Nat.succ.inj same
    rfl
  next k rest same =>
    obtain rfl := Nat.succ.inj same
    rfl
  next same _ _ _ _ _ _ =>
    obtain rfl := Nat.succ.inj same
    split
    next read => simp [read, readClassOn]
    next read => simp [read]

theorem length_classStep_lt {level : ClassLevel} {outer : List ClassLevel} {cs rest : Chars}
    {x : ClassStep} (h : classStep f level outer cs = some (x, rest)) :
    rest.length < cs.length := by
  unfold classStep at h
  split at h
  next more =>
    split at h
    next ascii =>
      cases h
      exact Nat.lt_succ_of_lt (length_asciiClass?_lt ascii)
    next => cases h
    next =>
      obtain ⟨⟨inner, rest'⟩, opened, same⟩ := Option.map_eq_some_iff.mp h
      cases same
      exact Nat.lt_succ_of_le (length_openClass_le opened)
  next more => split at h <;> cases h <;> exact Nat.lt_succ_self _
  next more =>
    cases h
    simp only [List.length_cons]
    omega
  next more =>
    cases h
    simp only [List.length_cons]
    omega
  next more =>
    cases h
    simp only [List.length_cons]
    omega
  next =>
    obtain ⟨⟨s, rest'⟩, read, same⟩ := Option.map_eq_some_iff.mp h
    cases same
    exact length_classRange_lt read

/-- Inside a class nothing ends before the parenthesis that did not end before. -/
def StillOpen (x : ClassStep) (rest : Chars) : Prop :=
  (∃ y, x = .inr y) ∧ (rest = [] ∨ rest = [')'])

theorem ne_cons_cons_append {c d : Char} (other : c ≠ ')') (other' : d ≠ ')') {cs : Chars}
    (h : ∀ rest, cs ≠ c :: d :: rest) (rest : Chars) : cs ++ [')'] ≠ c :: d :: rest := by
  rcases cs with _ | ⟨a, cs⟩
  · simp [Ne.symm other]
  · intro whole
    obtain ⟨rfl, same⟩ := List.cons.inj whole
    have h' (rest : Chars) : cs ≠ d :: rest := fun same' => h rest (by rw [same'])
    exact ne_cons_append other' h' rest same

theorem extends_classStep (f : Flags) (level : ClassLevel) (outer : List ClassLevel) (cs : Chars) :
    Extends StillOpen (classStep f level outer cs) (classStep f level outer (cs ++ [')'])) := by
  unfold classStep
  split
  next rest =>
    simp only [List.cons_append]
    have ascii := extends_asciiClass? f rest
    generalize asciiClass? f rest = a at ascii ⊢
    generalize asciiClass? f (rest ++ [')']) = b at ascii ⊢
    cases ascii with
    | left set rest' =>
      cases set with
      | none => exact .fails
      | some s => exact .left (Sum.inr _) rest'
    | passed set =>
      cases set with
      | none => exact .fails
      | some s => exact .passed (Sum.inr _)
    | fails =>
      exact (extends_openClass f rest).map
        (g := fun inner => (Sum.inr (inner, level :: outer) : ClassStep))
        fun inner rest almost => ⟨⟨_, rfl⟩, almost⟩
    | late x rest never => exact never.elim
  next rest =>
    simp only [List.cons_append]
    rcases level.close f with _ | p
    · exact .fails
    cases outer with
    | nil => exact .left (Sum.inl p) rest
    | cons l outer => exact .left (Sum.inr (l.add p, outer)) rest
  next rest => exact .left (Sum.inr _) rest
  next rest => exact .left (Sum.inr _) rest
  next rest => exact .left (Sum.inr _) rest
  next bracket closing and minus tilde =>
    split
    next rest same => exact absurd same (ne_cons_append (by decide) bracket rest)
    next rest same => exact absurd same (ne_cons_append (by decide) closing rest)
    next rest same => exact absurd same (ne_cons_cons_append (by decide) (by decide) and rest)
    next rest same => exact absurd same (ne_cons_cons_append (by decide) (by decide) minus rest)
    next rest same => exact absurd same (ne_cons_cons_append (by decide) (by decide) tilde rest)
    next =>
      exact (extends_classRange f cs).map
        (g := fun s => (Sum.inr (level.add ⟨s, 0⟩, outer) : ClassStep))
        fun s rest almost => ⟨⟨_, rfl⟩, almost⟩

theorem length_readClass_le {steps : Nat} {level : ClassLevel} {outer : List ClassLevel}
    {cs rest : Chars} {p : ClassPart} (h : readClass f steps level outer cs = some (p, rest)) :
    rest.length ≤ cs.length := by
  have pass := f.length_pass_le cs
  induction steps generalizing level outer cs with
  | zero => cases h
  | succ steps ih =>
    by_cases ended : f.pass cs = []
    · rw [readClass_nil ended] at h
      cases h
    rw [readClass_succ ended] at h
    obtain ⟨⟨x, rest'⟩, stepped, h⟩ := Option.bind_eq_some_iff.mp h
    have := length_classStep_lt stepped
    rcases x with p | ⟨level, outer⟩
    · cases h
      omega
    · have := ih h (f.length_pass_le rest')
      omega

theorem readClass_parenthesis {cs : Chars} (last : f.pass cs = [')']) (steps : Nat)
    (level : ClassLevel) (outer : List ClassLevel) : readClass f steps level outer cs = none := by
  have unread : classRange f [')'] = none := by
    rw [classRange_eq]
    simp [classItem, rangeAfter]
  cases steps with
  | zero => rfl
  | succ steps =>
    rw [readClass_succ (by simp [last]), last]
    simp [classStep, unread]

/-- A class is read in as many steps as there are characters, so that one step more is there for the
parenthesis. -/
theorem extends_readClass {steps : Nat} {cs : Chars} (enough : cs.length ≤ steps)
    (level : ClassLevel) (outer : List ClassLevel) :
    Extends Never (readClass f steps level outer cs)
      (readClass f (steps + 1) level outer (cs ++ [')'])) := by
  induction steps generalizing level outer cs with
  | zero =>
    obtain rfl := List.eq_nil_of_length_eq_zero (Nat.le_zero.mp enough)
    rw [readClass_nil f.pass_nil, List.nil_append, readClass_parenthesis (f.pass_parenthesis [])]
    exact .fails
  | succ steps ih =>
    by_cases ended : f.pass cs = []
    · rw [readClass_nil ended]
      rcases f.pass_append cs with left | ⟨-, passed⟩
      · rw [readClass_parenthesis (by rw [left, ended]; rfl)]
        exact .fails
      · rw [readClass_nil passed]
        exact .fails
    have left : f.pass (cs ++ [')']) = f.pass cs ++ [')'] := by
      rcases f.pass_append cs with left | ⟨none_left, -⟩
      · exact left
      · exact absurd none_left ended
    rw [readClass_succ ended, readClass_succ (by simp [left]), left]
    -- A step may be the same one, take the parenthesis in, or be there in the longer text only.
    refine (extends_classStep f level outer (f.pass cs)).bind_of_eq (fun x rest stepped => ?_)
      (fun x => ?_) fun x rest still => ?_
    · have := length_classStep_lt stepped
      have := f.length_pass_le cs
      rcases x with p | ⟨level, outer⟩
      · exact .left p rest
      · exact ih (by omega) level outer
    · rcases x with p | ⟨level, outer⟩
      · exact .passed p
      · simp only [readClassOn, readClass_nil f.pass_nil]
        exact .fails
    · obtain ⟨⟨⟨level, outer⟩, rfl⟩, rfl | rfl⟩ := still
      · simp only [readClassOn, readClass_nil f.pass_nil]
        exact .fails
      · simp only [readClassOn, readClass_parenthesis (f.pass_parenthesis [])]
        exact .fails

end LearningMap.Pattern
