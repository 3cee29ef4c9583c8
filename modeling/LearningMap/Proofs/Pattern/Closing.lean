import LearningMap.Pattern.Lexeme
import Mathlib.Data.List.Basic

/-!
# One closing parenthesis more

How the reading of a small part of a pattern changes when a closing parenthesis is put after the
text. As a rule the part is read as before and the parenthesis is left. It is passed over when the
text ends in a comment; and when the text ends too soon, the parenthesis may be taken for a part of
what is missing.
-/

namespace LearningMap.Pattern

open Unicode (CharSet)

variable {α β : Type}

/-- How a reading goes on when a closing parenthesis is put after the text. -/
inductive Extends (late : α → Chars → Prop) :
    Option (α × Chars) → Option (α × Chars) → Prop
  | left (x : α) (rest : Chars) : Extends late (some (x, rest)) (some (x, rest ++ [')']))
  | passed (x : α) : Extends late (some (x, [])) (some (x, []))
  | fails : Extends late none none
  /-- Only the longer text can be read. -/
  | late (x : α) (rest : Chars) : late x rest → Extends late none (some (x, rest))

def Never (_ : α) (_ : Chars) : Prop := False

def AtEnd (_ : α) (rest : Chars) : Prop := rest = []

namespace Extends

variable {late : α → Chars → Prop} {late' : β → Chars → Prop} {a b : Option (α × Chars)}

theorem mono {late' : α → Chars → Prop} (h : Extends late a b)
    (imp : ∀ x rest, late x rest → late' x rest) : Extends late' a b := by
  cases h with
  | left x rest => exact .left x rest
  | passed x => exact .passed x
  | fails => exact .fails
  | late x rest h => exact .late x rest (imp x rest h)

theorem of_never {late' : α → Chars → Prop} (h : Extends Never a b) : Extends late' a b :=
  h.mono fun _ _ => False.elim

/-- A part and what is read after it, perhaps in more steps. -/
theorem bind_of_eq {k k' : α × Chars → Option (β × Chars)} (h : Extends late a b)
    (next : ∀ x rest, a = some (x, rest) → Extends late' (k (x, rest)) (k' (x, rest ++ [')'])))
    (nothing : ∀ x, Extends late' (k (x, [])) (k' (x, [])))
    (later : ∀ x rest, late x rest → Extends late' none (k' (x, rest))) :
    Extends late' (a >>= k) (b >>= k') := by
  cases h with
  | left x rest => exact next x rest rfl
  | passed x => exact nothing x
  | fails => exact .fails
  | late x rest h => exact later x rest h

theorem bind {k : α × Chars → Option (β × Chars)} (h : Extends late a b)
    (next : ∀ x rest, Extends late' (k (x, rest)) (k (x, rest ++ [')'])))
    (nothing : ∀ x, Extends late' (k (x, [])) (k (x, [])))
    (later : ∀ x rest, late x rest → Extends late' none (k (x, rest))) :
    Extends late' (a >>= k) (b >>= k) :=
  h.bind_of_eq (fun x rest _ => next x rest) nothing later

theorem map {g : α → β} (h : Extends late a b) (imp : ∀ x rest, late x rest → late' (g x) rest) :
    Extends late' (a.map fun (x, rest) => (g x, rest)) (b.map fun (x, rest) => (g x, rest)) := by
  cases h with
  | left x rest => exact .left (g x) rest
  | passed x => exact .passed (g x)
  | fails => exact .fails
  | late x rest h => exact .late (g x) rest (imp x rest h)

/-- What is read where nothing is. -/
theorem of_nothing {o : Option (α × Chars)}
    (shrinks : ∀ x rest, o = some (x, rest) → rest.length ≤ 0) : Extends late o o := by
  rcases o with _ | ⟨x, rest⟩
  · exact .fails
  · obtain rfl := List.eq_nil_of_length_eq_zero (Nat.le_zero.mp (shrinks x rest rfl))
    exact .passed x

/-- What is read only in the longer text, up to its end. -/
theorem of_ended {o : Option (α × Chars)} (ended : ∀ x rest, o = some (x, rest) → rest = []) :
    Extends AtEnd none o := by
  rcases o with _ | ⟨x, rest⟩
  · exact .fails
  · exact .late x rest (ended x rest rfl)

end Extends

theorem isBlank_parenthesis : isBlank ')' = false := by decide

theorem afterComment_append (cs : Chars) :
    afterComment (cs ++ [')']) = afterComment cs ++ [')'] ∨
      afterComment cs = [] ∧ afterComment (cs ++ [')']) = [] := by
  unfold afterComment
  induction cs with
  | nil => simp
  | cons c cs ih =>
    by_cases ends : c = '\n'
    · simp [ends]
    · simpa [ends] using ih

theorem passBlanks_nil : passBlanks [] = [] := by
  simp [passBlanks]

theorem passBlanks_append (cs : Chars) :
    passBlanks (cs ++ [')']) = passBlanks cs ++ [')'] ∨
      passBlanks cs = [] ∧ passBlanks (cs ++ [')']) = [] := by
  fun_induction passBlanks cs with
  | case1 => exact .inl (by simp [passBlanks, isBlank_parenthesis])
  | case2 c rest blank ih => simpa [passBlanks, blank] using ih
  | case3 rest blank ih =>
    rw [List.cons_append, passBlanks, if_neg blank, if_pos rfl]
    rcases afterComment_append rest with left | ⟨none_left, passed⟩
    · rwa [left]
    · rw [passed, none_left]
      exact .inr ⟨passBlanks_nil, passBlanks_nil⟩
  | case4 c rest blank other => exact .inl (by simp [passBlanks, blank, other])

theorem Flags.pass_append (f : Flags) (cs : Chars) :
    f.pass (cs ++ [')']) = f.pass cs ++ [')'] ∨ f.pass cs = [] ∧ f.pass (cs ++ [')']) = [] := by
  unfold Flags.pass
  split
  · exact passBlanks_append cs
  · exact .inl rfl

@[simp] theorem Flags.pass_nil (f : Flags) : f.pass [] = [] := by
  simp [pass, passBlanks]

@[simp] theorem Flags.pass_parenthesis (f : Flags) (cs : Chars) :
    f.pass (')' :: cs) = ')' :: cs := by
  simp [pass, passBlanks, isBlank_parenthesis]

theorem Flags.pass_brace (f : Flags) (cs : Chars) : f.pass ('\x7b' :: cs) = '\x7b' :: cs := by
  have solid : isBlank '\x7b' = false := by decide
  simp [pass, passBlanks, solid]

/-- A reading that starts after blanks. -/
theorem Extends.after_pass (f : Flags) {late : α → Chars → Prop} {r : Chars → Option (α × Chars)}
    {cs : Chars} (h : Extends late (r (f.pass cs)) (r (f.pass cs ++ [')'])))
    (nothing : Extends late (r []) (r [])) :
    Extends late (r (f.pass cs)) (r (f.pass (cs ++ [')']))) := by
  rcases f.pass_append cs with left | ⟨none_left, passed⟩
  · rwa [left]
  · rwa [none_left, passed]

/-- What was read, with the blanks after it. -/
theorem Extends.pass (f : Flags) {late : α → Chars → Prop} (x : α) (cs : Chars) :
    Extends late (some (x, f.pass cs)) (some (x, f.pass (cs ++ [')']))) :=
  .after_pass (r := fun rest => some (x, rest)) f (.left x _) (.passed x)

/-- As long as a closing parenthesis fails the test, it is not taken. -/
theorem Flags.extends_takeWhile (f : Flags) {t : Char → Bool} (fails : t ')' = false)
    (cs : Chars) :
    Extends Never (some (f.takeWhile t cs)) (some (f.takeWhile t (cs ++ [')']))) := by
  fun_induction f.takeWhile t cs with
  | case1 =>
    rw [List.nil_append, takeWhile, if_neg (by simp [fails])]
    exact .left [] []
  | case2 c rest passes taken rest' eq ih =>
    rw [List.cons_append, takeWhile, if_pos passes]
    have more : Extends Never (some (f.takeWhile t (f.pass rest)))
        (some (f.takeWhile t (f.pass (rest ++ [')'])))) :=
      .after_pass (r := fun cs => some (f.takeWhile t cs)) f ih (by
        rw [takeWhile]
        exact .passed [])
    rw [eq] at more
    exact more.map (g := (c :: ·)) fun _ _ => False.elim
  | case3 c rest stops =>
    rw [List.cons_append, takeWhile, if_neg (by simp [stops])]
    exact .left [] (c :: rest)

theorem Flags.takeWhile_append_of_fails (f : Flags) {t : Char → Bool} (fails : t ')' = false)
    (cs : Chars) :
    f.takeWhile t (cs ++ [')']) =
        ((f.takeWhile t cs).1, (f.takeWhile t cs).2 ++ [')']) ∨
      (f.takeWhile t cs).2 = [] ∧ (f.takeWhile t (cs ++ [')'])).2 = [] := by
  have taken := f.extends_takeWhile fails cs
  generalize f.takeWhile t cs = x at taken ⊢
  generalize f.takeWhile t (cs ++ [')']) = y at taken ⊢
  cases taken with
  | left => exact .inl rfl
  | passed => exact .inr ⟨rfl, rfl⟩

/-- When a closing parenthesis passes the test, it is taken only with all before it. -/
theorem Flags.takeWhile_append (f : Flags) {t : Char → Bool} (passes : t ')' = true)
    (cs : Chars) :
    f.takeWhile t (cs ++ [')']) =
        ((f.takeWhile t cs).1, (f.takeWhile t cs).2 ++ [')']) ∧
          (f.takeWhile t cs).2 ≠ [] ∨
      (f.takeWhile t cs).2 = [] ∧ (f.takeWhile t (cs ++ [')'])).2 = [] := by
  fun_induction f.takeWhile t cs with
  | case1 =>
    rw [List.nil_append, takeWhile, if_pos passes, pass_nil, takeWhile]
    exact .inr ⟨rfl, rfl⟩
  | case2 c rest passes' taken rest' eq ih =>
    rw [List.cons_append, takeWhile, if_pos passes']
    simp only [eq] at ih
    rcases f.pass_append rest with left | ⟨none_left, passed⟩
    · rw [left]
      rcases ih with ⟨same, more⟩ | ih
      · exact .inl ⟨by rw [same], more⟩
      · exact .inr ih
    · rw [none_left, takeWhile] at eq
      rw [passed, takeWhile]
      simp only [Prod.mk.injEq] at eq
      exact .inr ⟨eq.2.symm, rfl⟩
  | case3 c rest stops =>
    rw [List.cons_append, takeWhile, if_neg (by simp [stops])]
    exact .inl ⟨rfl, by simp⟩

theorem dropWhile_isBlank_append (cs : Chars) :
    (cs ++ [')']).dropWhile isBlank = cs.dropWhile isBlank ++ [')'] := by
  induction cs with
  | nil => simp [isBlank_parenthesis]
  | cons c cs ih =>
    by_cases blank : isBlank c = true
    · simpa [blank] using ih
    · simp [blank]

theorem Flags.length_takeWhile_le (f : Flags) (test : Char → Bool) (cs : Chars) :
    (f.takeWhile test cs).2.length ≤ cs.length := by
  fun_induction f.takeWhile test cs with
  | case1 => exact Nat.le_refl _
  | case2 c rest passes taken rest' eq ih =>
    have := f.length_pass_le rest
    simp only [eq] at ih
    simp only [List.length_cons]
    omega
  | case3 => exact Nat.le_refl _

theorem Flags.length_decimal_le {f : Flags} {cs rest : Chars} {n : Option Nat}
    (h : f.decimal cs = some (n, rest)) : rest.length ≤ cs.length := by
  have blanks := (List.dropWhile_sublist isBlank (l := cs)).length_le
  have digits := f.length_takeWhile_le Char.isDigit (cs.dropWhile isBlank)
  have more := f.length_takeWhile_le isBlank (f.takeWhile Char.isDigit (cs.dropWhile isBlank)).2
  have same :
      rest = (f.takeWhile isBlank (f.takeWhile Char.isDigit (cs.dropWhile isBlank)).2).2 := by
    unfold decimal at h
    grind
  rw [same]
  omega

theorem Flags.extends_decimal (f : Flags) (cs : Chars) :
    Extends Never (f.decimal cs) (f.decimal (cs ++ [')'])) := by
  have number (x : Option Nat) (rest : Chars) :
      Extends Never (some (x, (f.takeWhile isBlank rest).2))
        (some (x, (f.takeWhile isBlank (rest ++ [')'])).2)) :=
    (f.extends_takeWhile isBlank_parenthesis rest).map (g := fun _ => x) fun _ _ => False.elim
  have none_left (x : Option Nat) : Extends Never (some (x, (f.takeWhile isBlank []).2))
      (some (x, (f.takeWhile isBlank []).2)) := by
    rw [takeWhile]
    exact .passed x
  unfold decimal
  rw [dropWhile_isBlank_append]
  refine (f.extends_takeWhile (t := Char.isDigit) rfl (cs.dropWhile isBlank)).bind
    (k := fun x =>
      if x.1.isEmpty then some (none, (f.takeWhile isBlank x.2).2)
      else if x.1.foldl (fun n c => n * 10 + (c.toNat - '0'.toNat)) 0 ≤ greatestCount then
        some (some (x.1.foldl (fun n c => n * 10 + (c.toNat - '0'.toNat)) 0),
          (f.takeWhile isBlank x.2).2)
      else none) (fun digits rest => ?_) (fun digits => ?_) fun _ _ => False.elim
  · dsimp only
    split_ifs
    · exact number _ rest
    · exact number _ rest
    · exact .fails
  · dsimp only
    split_ifs
    · exact none_left _
    · exact none_left _
    · exact .fails

theorem Flags.decimal_parenthesis (f : Flags) : f.decimal [')'] = some (none, [')']) := by
  simp [decimal, takeWhile, isBlank_parenthesis, Char.isDigit]

theorem Flags.length_hexDigits_le {f : Flags} {n : Nat} {cs digits rest : Chars}
    (h : f.hexDigits n cs = some (digits, rest)) : rest.length ≤ cs.length := by
  fun_induction f.hexDigits n cs generalizing digits with
  | case1 cs =>
    obtain ⟨-, rfl⟩ := Prod.mk.inj (Option.some.inj h)
    exact Nat.le_refl _
  | case2 n c cs isHex ih =>
    obtain ⟨⟨more, rest'⟩, read, same⟩ := Option.bind_eq_some_iff.mp h
    obtain ⟨-, rfl⟩ := Prod.mk.inj (Option.some.inj same)
    have := ih read
    have := f.length_pass_le cs
    simp only [List.length_cons]
    omega
  | case3 => cases h
  | case4 => cases h

theorem Flags.extends_hexDigits (f : Flags) (n : Nat) (cs : Chars) :
    Extends Never (f.hexDigits n cs) (f.hexDigits n (cs ++ [')'])) := by
  fun_induction f.hexDigits n cs with
  | case1 cs => exact .left [] cs
  | case2 n c cs isHex ih =>
    rw [List.cons_append, hexDigits, if_pos isHex]
    refine (Extends.after_pass (r := f.hexDigits n) f ih
      (.of_nothing fun digits rest h => length_hexDigits_le h)).bind
      (fun digits rest => .left _ rest) (fun digits => .passed _) fun _ _ => False.elim
  | case3 n c cs other =>
    rw [List.cons_append, hexDigits, if_neg other]
    exact .fails
  | case4 n =>
    rw [List.nil_append, hexDigits, if_neg (by decide)]
    exact .fails

theorem Flags.takeWhile_stops {f : Flags} {test : Char → Bool} {cs rest : Chars} {c : Char}
    (h : (f.takeWhile test cs).2 = c :: rest) : test c = false := by
  fun_induction f.takeWhile test cs with
  | case1 => cases h
  | case2 c rest passes taken rest' eq ih => exact ih (by rw [eq]; exact h)
  | case3 c rest stops =>
    obtain ⟨rfl, -⟩ := List.cons.inj h
    simpa using stops

/-- What stands between braces, after the first of them. -/
theorem Flags.braced_append (f : Flags) (cs : Chars) :
    (∃ name rest, f.takeWhile (· ≠ '\x7d') (f.pass cs) = (name, '\x7d' :: rest) ∧
      f.takeWhile (· ≠ '\x7d') (f.pass (cs ++ [')'])) = (name, '\x7d' :: rest ++ [')'])) ∨
    (f.takeWhile (· ≠ '\x7d') (f.pass cs)).2 = [] ∧
      (f.takeWhile (· ≠ '\x7d') (f.pass (cs ++ [')']))).2 = [] := by
  rcases f.pass_append cs with left | ⟨none_left, passed⟩
  · rw [left]
    rcases f.takeWhile_append (t := (· ≠ '\x7d')) rfl (f.pass cs) with ⟨same, more⟩ | ended
    · obtain ⟨c, rest, taken⟩ := List.exists_cons_of_ne_nil more
      obtain rfl : c = '\x7d' := by simpa using takeWhile_stops taken
      refine .inl ⟨_, rest, Prod.ext rfl taken, ?_⟩
      rw [same, taken]
    · exact .inr ended
  · rw [none_left, passed, takeWhile]
    exact .inr ⟨rfl, rfl⟩

theorem Flags.length_braced_le {f : Flags} {cs name rest : Chars} {c : Char}
    (h : f.takeWhile (· ≠ '\x7d') (f.pass cs) = (name, c :: rest)) : rest.length < cs.length := by
  have := f.length_takeWhile_le (· ≠ '\x7d') (f.pass cs)
  have := f.length_pass_le cs
  rw [h] at *
  simp only [List.length_cons] at *
  omega

theorem ne_cons_append {c : Char} (other : c ≠ ')') {cs : Chars} (h : ∀ rest, cs ≠ c :: rest)
    (rest : Chars) : cs ++ [')'] ≠ c :: rest := by
  cases cs with
  | nil => simp [Ne.symm other]
  | cons d ds => exact fun same => h ds (by rw [(List.cons.inj same).1])

theorem Flags.length_hexEscape_le {f : Flags} {letter : Char} {cs rest : Chars} {p : Primitive}
    (h : f.hexEscape letter cs = some (p, rest)) : rest.length ≤ cs.length := by
  have pass := f.length_pass_le cs
  unfold hexEscape at h
  split at h
  next rest' ahead =>
    dsimp only at h
    split at h
    next rest'' braced =>
      obtain ⟨c, -, same⟩ := Option.bind_eq_some_iff.mp h
      obtain ⟨-, rfl⟩ := Prod.mk.inj (Option.some.inj same)
      have := f.length_pass_le rest''
      have := length_braced_le (Prod.ext rfl braced)
      rw [ahead, List.length_cons] at pass
      omega
    next => cases h
  next =>
    obtain ⟨⟨digits, rest'⟩, read, same⟩ := Option.bind_eq_some_iff.mp h
    obtain ⟨c, -, same⟩ := Option.bind_eq_some_iff.mp same
    obtain ⟨-, rfl⟩ := Prod.mk.inj (Option.some.inj same)
    have := length_hexDigits_le read
    omega

theorem Flags.extends_hexEscape (f : Flags) (letter : Char) (cs : Chars) :
    Extends Never (f.hexEscape letter cs) (f.hexEscape letter (cs ++ [')'])) := by
  have leaf (digits : Chars) (byte : Bool) {rest rest' : Chars}
      (h : Extends Never (some ((), rest)) (some ((), rest'))) :
      Extends Never (do pure (Primitive.literal (← charOfHex? digits) byte, rest))
        (do pure (Primitive.literal (← charOfHex? digits) byte, rest')) := by
    cases charOfHex? digits with
    | none => exact .fails
    | some c => exact h.map (g := fun _ => Primitive.literal c byte) fun _ _ => False.elim
  unfold hexEscape
  generalize (if letter = 'x' then 2 else if letter = 'u' then 4 else 8) = n
  have plain {a b : Option (Chars × Chars)} (h : Extends Never a b) : Extends Never
      (do let x ← a; pure (Primitive.literal (← charOfHex? x.1) (letter = 'x'), x.2))
      (do let x ← b; pure (Primitive.literal (← charOfHex? x.1) (letter = 'x'), x.2)) :=
    h.bind (fun digits rest => leaf digits _ (.left () rest))
      (fun digits => leaf digits _ (.passed ())) fun _ _ => False.elim
  rcases f.pass_append cs with left | ⟨none_left, passed⟩
  · rw [left]
    split
    next rest ahead =>
      rw [ahead]
      rcases f.braced_append rest with ⟨name, rest', same, same'⟩ | ⟨ended, ended'⟩
      · simp only [List.cons_append, same, same']
        exact leaf name false (.pass f () rest')
      · simp only [List.cons_append, ended, ended']
        exact .fails
    next other =>
      split
      next rest' ahead' => exact absurd ahead' (ne_cons_append (by decide) other rest')
      next => exact plain (f.extends_hexDigits n _)
  · rw [none_left, passed]
    exact plain (.of_nothing fun _ _ => length_hexDigits_le)

/-- What is done with a set when no more is to be read: it is taken in both cases and negated. -/
def Flags.finishClass (f : Flags) (negated : Bool) (rest : Chars) (set : CharSet) :
    Option (CharSet × Chars) :=
  if f.unicode then do pure (← f.negate negated (f.fold set), rest) else none

theorem Flags.extends_finishClass (f : Flags) (negated : Bool) (o : Option CharSet) (rest : Chars) :
    Extends AtEnd (o.bind (f.finishClass negated rest))
      (o.bind (f.finishClass negated (rest ++ [')']))) := by
  rcases o with _ | set
  · exact .fails
  simp only [Option.bind_some, finishClass]
  split
  · cases f.negate negated (f.fold set) with
    | none => exact .fails
    | some s => exact .left s rest
  · exact .fails

theorem Flags.rest_of_finishClass {f : Flags} {negated : Bool} {o : Option CharSet} {r rest : Chars}
    {s : CharSet} (h : o.bind (f.finishClass negated r) = some (s, rest)) : rest = r := by
  obtain ⟨set, -, h⟩ := Option.bind_eq_some_iff.mp h
  unfold finishClass at h
  split at h
  · obtain ⟨t, -, same⟩ := Option.bind_eq_some_iff.mp h
    exact (Prod.mk.inj (Option.some.inj same)).2.symm
  · cases h

theorem Flags.length_unicodeClass_le {f : Flags} {negated : Bool} {cs rest : Chars} {s : CharSet}
    (h : f.unicodeClass negated cs = some (s, rest)) : rest.length ≤ cs.length := by
  have pass := f.length_pass_le cs
  unfold unicodeClass at h
  dsimp only at h
  split at h
  next rest' ahead =>
    rw [ahead, List.length_cons] at pass
    split at h
    next rest'' braced =>
      have := length_braced_le (Prod.ext rfl braced)
      split at h
      · obtain rfl := rest_of_finishClass (o := Unicode.valued? _ _) h
        omega
      · obtain rfl := rest_of_finishClass (o := Unicode.named? _) h
        omega
    next => cases h
  next => cases h
  next c rest' _ _ ahead =>
    obtain rfl := rest_of_finishClass (o := Unicode.named? [c]) h
    rw [ahead, List.length_cons] at pass
    omega
  next => cases h

theorem Flags.extends_unicodeClass (f : Flags) (negated : Bool) (cs : Chars) :
    Extends AtEnd (f.unicodeClass negated cs) (f.unicodeClass negated (cs ++ [')'])) := by
  unfold unicodeClass
  rcases f.pass_append cs with left | ⟨none_left, passed⟩
  · rw [left]
    rcases f.pass cs with _ | ⟨c, rest⟩
    · -- The parenthesis is taken for the name of a class.
      exact .of_ended fun s rest => rest_of_finishClass (o := Unicode.named? [')'])
    by_cases brace : c = '\x7b'
    · subst brace
      rcases f.braced_append rest with ⟨name, rest', same, same'⟩ | ⟨ended, ended'⟩
      · simp only [List.cons_append, same, same']
        split
        · exact f.extends_finishClass _ (Unicode.valued? _ _) rest'
        · exact f.extends_finishClass _ (Unicode.named? _) rest'
      · simp only [List.cons_append, ended, ended']
        exact .fails
    by_cases slash : c = '\\'
    · subst slash
      exact .fails
    · simp only [List.cons_append]
      exact f.extends_finishClass negated (Unicode.named? [c]) rest
  · rw [none_left, passed]
    exact .fails

/-- A brace stands before the parenthesis, as if for a repetition. -/
def Flags.Dangling (f : Flags) (rest : Chars) : Prop :=
  ∃ more, rest = '\x7b' :: more ∧ f.pass more = [')']

theorem Flags.length_wordBoundary_le {f : Flags} {cs rest : Chars} {t : WordTest}
    (h : f.wordBoundary cs = some (t, rest)) : rest.length ≤ cs.length := by
  unfold wordBoundary at h
  split at h
  next more =>
    have pass := f.length_pass_le more
    dsimp only at h
    split at h
    · cases h
    next c rest' ahead =>
      split at h
      · obtain ⟨-, rfl⟩ := Prod.mk.inj (Option.some.inj h)
        exact Nat.le_refl _
      have taken := f.length_takeWhile_le
        (fun c => ('A' ≤ c && c ≤ 'Z') || ('a' ≤ c && c ≤ 'z') || c == '-') (c :: rest')
      split at h
      next name rest'' braced =>
        rw [ahead] at pass
        rw [braced] at taken
        simp only [List.length_cons] at pass taken ⊢
        split at h <;> cases h <;> omega
      next => cases h
  next =>
    obtain ⟨-, rfl⟩ := Prod.mk.inj (Option.some.inj h)
    exact Nat.le_refl _

theorem Flags.extends_wordBoundary (f : Flags) (cs : Chars) :
    Extends (fun _ rest => f.Dangling rest) (f.wordBoundary cs) (f.wordBoundary (cs ++ [')'])) := by
  unfold wordBoundary
  split
  case h_2 other =>
    split
    next rest ahead => exact absurd ahead (ne_cons_append (by decide) other rest)
    next => exact .left WordTest.boundary cs
  next cs =>
    simp only [List.cons_append]
    rcases f.pass_append cs with left | ⟨none_left, passed⟩
    case inr =>
      rw [none_left, passed]
      exact .fails
    rw [left]
    rcases ahead : f.pass cs with _ | ⟨c, rest⟩
    · exact .late WordTest.boundary _ ⟨cs ++ [')'], rfl, by rw [left, ahead]; rfl⟩
    simp only [List.cons_append]
    split_ifs
    · exact .left WordTest.boundary ('\x7b' :: cs)
    have letters := f.takeWhile_append_of_fails
      (t := fun c => ('A' ≤ c && c ≤ 'Z') || ('a' ≤ c && c ≤ 'z') || c == '-') (by decide)
      (c :: rest)
    rw [List.cons_append] at letters
    rcases letters with same | ⟨ended, ended'⟩
    · rw [same]
      dsimp only
      split
      next rest' braced =>
        rw [braced]
        simp only [List.cons_append]
        split
        · exact .left WordTest.start rest'
        · exact .left WordTest.finish rest'
        · exact .left WordTest.startHalf rest'
        · exact .left WordTest.finishHalf rest'
        · exact .fails
      next other =>
        split
        next rest' braced => exact absurd braced (ne_cons_append (by decide) other rest')
        next => exact .fails
    · rw [ended, ended']
      exact .fails

/-- What an escape may come to that is read only in the longer text. -/
def Flags.Unfinished (f : Flags) (p : Primitive) (rest : Chars) : Prop :=
  rest = [] ∨ (∃ l, p = .look l) ∧ f.Dangling rest

theorem Flags.length_escape_le {f : Flags} {cs rest : Chars} {p : Primitive}
    (h : f.escape cs = some (p, rest)) : rest.length < cs.length := by
  rcases cs with _ | ⟨c, cs⟩
  · cases h
  suffices rest.length ≤ cs.length from Nat.lt_succ_of_le this
  unfold escape at h
  dsimp only at h
  split at h
  · cases h
  split at h
  · exact length_hexEscape_le h
  split at h
  · obtain ⟨⟨s, rest'⟩, read, same⟩ := Option.map_eq_some_iff.mp h
    obtain ⟨-, rfl⟩ := Prod.mk.inj same
    exact length_unicodeClass_le read
  split at h
  · obtain ⟨s, -, same⟩ := Option.map_eq_some_iff.mp h
    obtain ⟨-, rfl⟩ := Prod.mk.inj same
    exact Nat.le_refl _
  split at h
  · cases h
    exact Nat.le_refl _
  by_cases boundary : c = 'b'
  · subst boundary
    obtain ⟨⟨t, rest'⟩, read, same⟩ := Option.map_eq_some_iff.mp h
    obtain ⟨-, rfl⟩ := Prod.mk.inj same
    exact length_wordBoundary_le read
  rw [if_neg boundary] at h
  split_ifs at h
  all_goals
    cases h
    exact Nat.le_refl _

theorem Flags.escape_parenthesis (f : Flags) :
    f.escape [')'] = some (.literal ')' false, []) := by
  have noLetter : ')'.isAlpha = false := by decide
  simp [escape, perlClass?, control?, Char.isDigit, noLetter]

theorem Flags.extends_escape (f : Flags) (cs : Chars) :
    Extends f.Unfinished (f.escape cs) (f.escape (cs ++ [')'])) := by
  rcases cs with _ | ⟨c, cs⟩
  · rw [List.nil_append, escape_parenthesis]
    exact Extends.late (Primitive.literal ')' false) [] (Or.inl rfl)
  unfold escape
  dsimp only [List.cons_append]
  by_cases digit : c.isDigit = true
  · simp only [if_pos digit]
    exact .fails
  simp only [if_neg digit]
  by_cases hex : c = 'x' ∨ c = 'u' ∨ c = 'U'
  · simp only [if_pos hex]
    exact (f.extends_hexEscape c cs).of_never
  simp only [if_neg hex]
  by_cases property : c = 'p' ∨ c = 'P'
  · simp only [if_pos property]
    exact (f.extends_unicodeClass (c = 'P') cs).map (g := Primitive.set) fun _ _ => .inl
  simp only [if_neg property]
  rcases f.perlClass? c with _ | _ | s
  case some.none => exact .fails
  case some.some => exact .left (Primitive.set s) cs
  rcases control? c with _ | d
  case some => exact .left (Primitive.literal d false) cs
  dsimp only
  split_ifs
  · exact .left (Primitive.look .textStart) cs
  · exact .left (Primitive.look .textEnd) cs
  · exact (f.extends_wordBoundary cs).map (g := fun t => Primitive.look (.word t f.unicode))
      fun t _ dangling => .inr ⟨⟨_, rfl⟩, dangling⟩
  · exact .left (Primitive.look _) cs
  · exact .left (Primitive.look _) cs
  · exact .left (Primitive.look _) cs
  · exact .left (Primitive.literal c false) cs
  · exact .fails

theorem length_readFlags_lt {seen letters : List (FlagLetter × Bool)} {off justOff : Bool}
    {cs rest : Chars} {sign : Char}
    (h : readFlags seen off justOff cs = some (letters, sign, rest)) :
    rest.length < cs.length := by
  induction cs generalizing seen off justOff with
  | nil => cases h
  | cons c cs ih =>
    unfold readFlags at h
    split at h
    · split at h <;> cases h
      exact Nat.lt_succ_self _
    split at h
    · split at h
      · cases h
      · exact Nat.lt_succ_of_lt (ih h)
    split at h
    · split at h
      · cases h
      · exact Nat.lt_succ_of_lt (ih h)
    · cases h

/-- Flags that are read are read as before; others are only when the parenthesis ends them. -/
theorem readFlags_append (seen : List (FlagLetter × Bool)) (off justOff : Bool) (cs : Chars) :
    (∃ letters sign rest, readFlags seen off justOff cs = some (letters, sign, rest) ∧
      readFlags seen off justOff (cs ++ [')']) = some (letters, sign, rest ++ [')'])) ∨
    readFlags seen off justOff cs = none ∧
      (readFlags seen off justOff (cs ++ [')']) = none ∨
        ∃ letters, readFlags seen off justOff (cs ++ [')']) = some (letters, ')', [])) := by
  induction cs generalizing seen off justOff with
  | nil =>
    refine .inr ⟨rfl, ?_⟩
    cases justOff with
    | true => exact .inl rfl
    | false => exact .inr ⟨seen.reverse, rfl⟩
  | cons c cs ih =>
    rw [List.cons_append]
    unfold readFlags
    split_ifs with ends just minus again
    · exact .inr ⟨rfl, .inl rfl⟩
    · exact .inl ⟨_, _, _, rfl, rfl⟩
    · exact .inr ⟨rfl, .inl rfl⟩
    · exact ih _ _ _
    split
    next l _ =>
      split_ifs
      · exact .inr ⟨rfl, .inl rfl⟩
      · exact ih _ _ _
    next => exact .inr ⟨rfl, .inl rfl⟩

theorem takeWhile_ne_append (mark : Char) (other : mark ≠ ')') (cs : Chars) :
    (∃ rest, cs.drop (cs.takeWhile (· ≠ mark)).length = mark :: rest ∧
      (cs ++ [')']).takeWhile (· ≠ mark) = cs.takeWhile (· ≠ mark) ∧
      (cs ++ [')']).drop (cs.takeWhile (· ≠ mark)).length = mark :: rest ++ [')']) ∨
    cs.drop (cs.takeWhile (· ≠ mark)).length = [] ∧
      (cs ++ [')']).drop ((cs ++ [')']).takeWhile (· ≠ mark)).length = [] := by
  induction cs with
  | nil => exact .inr ⟨rfl, by simp [Ne.symm other]⟩
  | cons c cs ih =>
    by_cases found : c = mark
    · subst found
      exact .inl ⟨cs, by simp, by simp, by simp⟩
    · simpa [found] using ih

theorem length_readName_lt {cs name rest : Chars} (h : readName cs = some (name, rest)) :
    rest.length < cs.length := by
  unfold readName at h
  dsimp only at h
  split at h
  next c more rest' taken ahead =>
    split at h
    · have := congrArg List.length ahead
      cases h
      simp only [List.length_drop, List.length_cons] at this
      omega
    · cases h
  next => cases h

theorem extends_readName (cs : Chars) :
    Extends Never (readName cs) (readName (cs ++ [')'])) := by
  unfold readName
  dsimp only
  rcases takeWhile_ne_append '>' (by decide) cs with
    ⟨rest, ahead, same, ahead'⟩ | ⟨none_left, none_left'⟩
  · rw [same, ahead, ahead']
    cases cs.takeWhile (· ≠ '>') with
    | nil => exact .fails
    | cons c more =>
      simp only [List.cons_append]
      split_ifs
      · exact .left (c :: more) rest
      · exact .fails
  · rw [none_left, none_left']
    generalize cs.takeWhile (· ≠ '>') = name
    generalize (cs ++ [')']).takeWhile (· ≠ '>') = name'
    cases name <;> cases name' <;> exact .fails

end LearningMap.Pattern
