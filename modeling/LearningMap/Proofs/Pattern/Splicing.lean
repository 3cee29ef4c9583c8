import LearningMap.Proofs.Pattern.Matching
import LearningMap.Proofs.Pattern.Steps

/-!
# A pattern inside the group that anchors it

A pattern is anchored as text: it is put in a group after the sign for the start, and the whole is
read. The reader is followed through the pattern twice, once with that group open around it and once
without. The two go alike until a parenthesis closes a group that the pattern did not open; and at
the end the group is closed, unless a comment takes its parenthesis in.
-/

namespace LearningMap.Pattern

/-- A pattern in a group after the sign for the start. -/
def Piece.anchored (p : Piece) : Piece := .sequence [p.group none, .ofLook .textStart]

namespace Parser

theorem run_ended {s : Parser} {cs : Chars} (ended : s.flags.pass cs = []) (steps : Nat) :
    s.run steps cs = if s.frames.isEmpty then some s.value else none := by
  cases steps <;> simp [run, ended]

theorem run_ended_open {s : Parser} {cs : Chars} (ended : s.flags.pass cs = [])
    (opened : s.frames ≠ []) (steps : Nat) : s.run steps cs = none := by
  rw [run_ended ended, if_neg (by simpa using opened)]

theorem run_succ {s : Parser} {cs rest : Chars} {c : Char} (ahead : s.flags.pass cs = c :: rest)
    (steps : Nat) :
    s.run (steps + 1) cs = (s.step (c :: rest)).bind fun (t, rest) => t.run steps rest := by
  simp [run, ahead]

theorem run_of_le {s : Parser} {n m : Nat} {cs : Chars} (enough : cs.length ≤ n) (more : n ≤ m) :
    s.run m cs = s.run n cs := by
  induction n generalizing s m cs with
  | zero =>
    obtain rfl := List.eq_nil_of_length_eq_zero (Nat.le_zero.mp enough)
    rw [run_ended s.flags.pass_nil, run_ended s.flags.pass_nil]
  | succ n ih =>
    have pass := s.flags.length_pass_le cs
    obtain ⟨m, rfl⟩ := Nat.exists_eq_add_of_le' (Nat.one_le_of_lt more)
    cases ahead : s.flags.pass cs with
    | nil => rw [run_ended ahead, run_ended ahead]
    | cons c rest =>
      rw [run_succ ahead, run_succ ahead]
      refine Option.bind_congr fun ⟨t, rest'⟩ stepped => ?_
      have := length_step_lt stepped
      rw [ahead] at pass
      exact ih (by omega) (by omega)

theorem not_run_of_lost {t : Parser} {rest : Chars} (lost : Lost t rest) (opened : t.frames ≠ [])
    (steps : Nat) : t.run steps rest = none := by
  rcases lost with rfl | ⟨more, rfl, last⟩
  · exact run_ended_open t.flags.pass_nil opened steps
  cases steps with
  | zero => simp [run, t.flags.pass_brace]
  | succ steps =>
    have uncounted : counts t.flags more = none := by
      rw [counts, last]
      simp [Flags.decimal_parenthesis, afterCount]
    rw [run_succ (t.flags.pass_brace more), step_brace, uncounted]
    rfl

def outermost : Frame := ⟨[.ofLook .textStart], [], .initial, none⟩

/-- The same reader with that group around all that is open. -/
def inGroup (s : Parser) : Parser := { s with frames := s.frames ++ [outermost] }

def afterGroup (s : Parser) : Parser :=
  { s with pieces := [s.value.group none, .ofLook .textStart], branches := [], frames := [],
           flags := .initial }

theorem inGroup_open (s : Parser) : s.inGroup.frames ≠ [] := by
  simp [inGroup]

@[simp] theorem inGroup_flags (s : Parser) : s.inGroup.flags = s.flags := rfl

theorem readGroup_inGroup (s : Parser) (cs : Chars) :
    s.inGroup.readGroup cs = (s.readGroup cs).map fun (t, rest) => (t.inGroup, rest) := by
  by_cases mark : ∃ rest, s.flags.pass cs = '?' :: rest
  · obtain ⟨rest, ahead⟩ := mark
    have ahead' : s.inGroup.flags.pass cs = '?' :: rest := ahead
    rw [readGroup_of_mark ahead, readGroup_of_mark ahead']
    split
    · rfl
    cases name? rest with
    | none =>
      simp only [flagGroup]
      split
      · split_ifs <;> rfl
      · rfl
    | some rest =>
      simp only [namedGroup]
      split
      next name rest _ =>
        by_cases taken : s.names.contains name = true
        · rw [if_pos (c := s.inGroup.names.contains name = true) taken, if_pos taken]
          rfl
        · rw [if_neg (c := s.inGroup.names.contains name = true) taken, if_neg taken]
          rfl
      next => rfl
  · have other (rest : Chars) : s.flags.pass cs ≠ '?' :: rest := fun same => mark ⟨rest, same⟩
    rw [readGroup_of_ne other, readGroup_of_ne (s := s.inGroup) other]
    rfl

theorem repeatLast_inGroup (s : Parser) (least : Nat) (most : Option Nat) (cs : Chars) :
    s.inGroup.repeatLast least most cs =
      (s.repeatLast least most cs).map fun (t, rest) => (t.inGroup, rest) := by
  rcases s with ⟨_ | ⟨p, ps⟩, branches, frames, flags, names, groups⟩
  · rfl
  · simp only [repeatLast, inGroup]
    split <;> rfl

theorem readPrimitive_inGroup (s : Parser) (cs : Chars) :
    s.inGroup.readPrimitive cs = (s.readPrimitive cs).map fun (t, rest) => (t.inGroup, rest) := by
  rcases s with ⟨pieces, branches, frames, f, names, groups⟩
  simp only [readPrimitive, inGroup]
  split
  next rest =>
    cases f.escape rest with
    | none => rfl
    | some x =>
      obtain ⟨p, rest⟩ := x
      cases p with
      | literal c byte =>
        simp only [Option.bind_eq_bind, Option.bind_some]
        cases f.literal c byte <;> rfl
      | set set => rfl
      | look l => rfl
  next =>
    obtain ⟨_, _, _, _, unicode, _, _⟩ := f
    cases unicode <;> rfl
  next => rfl
  next => rfl
  next c rest _ _ _ _ => cases f.literal c false <;> rfl
  next => rfl

theorem step_inGroup {s : Parser} {c : Char} (inside : c ≠ ')' ∨ s.frames ≠ []) (cs : Chars) :
    s.inGroup.step (c :: cs) = (s.step (c :: cs)).map fun (t, rest) => (t.inGroup, rest) := by
  by_cases counted : c = '\x7b'
  · subst counted
    rw [step_brace, step_brace, inGroup_flags]
    cases counts s.flags cs with
    | none => rfl
    | some x => exact repeatLast_inGroup s x.1.1 x.1.2 x.2
  unfold step
  simp only [inGroup_flags]
  split
  next rest _ => exact readGroup_inGroup s rest
  next rest same =>
    have inner : s.frames ≠ [] := inside.resolve_left fun other => other (List.cons.inj same).1
    obtain ⟨f, frames, more⟩ := List.exists_cons_of_ne_nil inner
    simp [closeGroup, inGroup, more, value]
  next => rfl
  next rest _ =>
    cases openClass s.flags rest with
    | none => rfl
    | some x =>
      obtain ⟨level, rest⟩ := x
      simp only [Option.bind_eq_bind, Option.bind_some]
      cases readClass s.flags rest.length level [] rest <;> rfl
  next rest _ => exact repeatLast_inGroup s 0 (some 1) rest
  next rest _ => exact repeatLast_inGroup s 0 none rest
  next rest _ => exact repeatLast_inGroup s 1 none rest
  next same => exact absurd (List.cons.inj same).1 counted
  next => exact readPrimitive_inGroup s (c :: cs)

theorem step_inGroup_close {s : Parser} (whole : s.frames = []) (cs : Chars) :
    s.inGroup.step (')' :: cs) = some (s.afterGroup, cs) := by
  simp [step, closeGroup, inGroup, whole, outermost, afterGroup, value]

/-- Whether, in at most so many steps, a parenthesis is met that would close a group around. -/
def escapes (steps : Nat) (s : Parser) (cs : Chars) : Bool :=
  match steps, s.flags.pass cs with
  | _, [] => false
  | 0, _ => false
  | steps + 1, cs =>
    (cs.head? == some ')' && s.frames.isEmpty) ||
      (s.step cs).any fun (t, rest) => escapes steps t rest

theorem escapes_succ {s : Parser} {cs rest : Chars} {c : Char}
    (ahead : s.flags.pass cs = c :: rest) (steps : Nat) :
    s.escapes (steps + 1) cs = false ↔ (c ≠ ')' ∨ s.frames ≠ []) ∧
      ∀ t more, s.step (c :: rest) = some (t, more) → t.escapes steps more = false := by
  have same : s.escapes (steps + 1) cs = ((c == ')' && s.frames.isEmpty) ||
      (s.step (c :: rest)).any fun (t, rest) => t.escapes steps rest) := by
    simp [escapes, ahead]
  rw [same]
  rcases s.step (c :: rest) with _ | ⟨t, more⟩ <;> simp [Classical.or_iff_not_imp_left]

theorem not_escapes_of_run {steps : Nat} {s : Parser} {cs : Chars} {p : Piece}
    (read : s.run steps cs = some p) : s.escapes steps cs = false := by
  induction steps generalizing s cs with
  | zero => cases ahead : s.flags.pass cs <;> simp [escapes, ahead]
  | succ steps ih =>
    cases ahead : s.flags.pass cs with
    | nil => simp [escapes, ahead]
    | cons c rest =>
      rw [run_succ ahead] at read
      obtain ⟨⟨t, more⟩, stepped, read⟩ := Option.bind_eq_some_iff.mp read
      refine (escapes_succ ahead steps).mpr ⟨?_, ?_⟩
      · by_contra closes
        obtain ⟨rfl, whole⟩ : c = ')' ∧ s.frames = [] := by simpa using closes
        simp [step, closeGroup, whole] at stepped
      · intro t' more' stepped'
        obtain ⟨rfl, rfl⟩ := Prod.mk.inj (Option.some.inj (stepped.symm.trans stepped'))
        exact ih read

/-- How the reading of a text and that of the same text in the group around compare. -/
inductive Spliced (alone closed : Option Piece) (around : Option Piece) : Prop
  | both (p : Piece) : alone = some p → around = some p.anchored → Spliced alone closed around
  /-- The text ends in a comment, which takes the parenthesis in. -/
  | passed (p : Piece) : alone = some p → closed = some p → around = none →
      Spliced alone closed around
  | fails : alone = none → around = none → Spliced alone closed around

theorem run_inGroup_whole {s : Parser} {cs : Chars} (last : s.flags.pass cs = [')'])
    (whole : s.frames = []) (steps : Nat) :
    s.inGroup.run (steps + 1) cs = some s.value.anchored := by
  rw [run_succ (s := s.inGroup) last, step_inGroup_close whole]
  cases steps <;> simp [run, afterGroup, value, Piece.anchored, Piece.choice]

theorem run_inGroup_open {s : Parser} {cs : Chars} (last : s.flags.pass cs = [')'])
    (opened : s.frames ≠ []) (steps : Nat) : s.inGroup.run (steps + 1) cs = none := by
  obtain ⟨f, frames, more⟩ := List.exists_cons_of_ne_nil opened
  rw [run_succ (s := s.inGroup) last, step_inGroup (.inr opened)]
  simp only [step, closeGroup, more]
  exact not_run_of_lost (.inl rfl) (inGroup_open _) steps

theorem spliced_of_extends {steps : Nat} {s : Parser} {cs rest : Chars} {c : Char}
    (ahead : s.flags.pass cs = c :: rest) (inside : c ≠ ')' ∨ s.frames ≠ [])
    (ih : ∀ t more, s.step (c :: rest) = some (t, more) →
      Spliced (t.run steps more) (t.run (steps + 1) (more ++ [')']))
        (t.inGroup.run (steps + 1) (more ++ [')']))) :
    Spliced (s.run (steps + 1) cs) (s.run (steps + 2) (cs ++ [')']))
      (s.inGroup.run (steps + 2) (cs ++ [')'])) := by
  have ahead' : s.flags.pass (cs ++ [')']) = c :: (rest ++ [')']) := by
    rcases s.flags.pass_append cs with left | ⟨none_left, -⟩
    · rw [left, ahead, List.cons_append]
    · simp [ahead] at none_left
  rw [run_succ ahead, run_succ ahead', run_succ (s := s.inGroup) ahead', step_inGroup inside]
  have extends_step := extends_step s c rest
  rw [List.cons_append] at extends_step
  generalize s.step (c :: (rest ++ [')'])) = b at extends_step
  generalize stepped : s.step (c :: rest) = a at extends_step ih
  cases extends_step with
  | left t more => exact ih t more rfl
  | passed t =>
    have opened : t.inGroup.run (steps + 1) [] = none := not_run_of_lost (.inl rfl) t.inGroup_open _
    have same : t.run (steps + 1) [] = t.run steps [] := by
      rw [run_ended t.flags.pass_nil, run_ended t.flags.pass_nil]
    cases read : t.run steps [] with
    | none => exact .fails read opened
    | some p => exact .passed p read (same.trans read) opened
  | fails => exact .fails rfl rfl
  | late t more lost => exact .fails rfl (not_run_of_lost (t := t.inGroup) lost t.inGroup_open _)

theorem spliced_of_ended {s : Parser} {cs : Chars} (ended : s.flags.pass cs = []) (steps : Nat) :
    Spliced (s.run steps cs) (s.run (steps + 1) (cs ++ [')']))
      (s.inGroup.run (steps + 1) (cs ++ [')'])) := by
  rcases s.flags.pass_append cs with left | ⟨-, passed⟩
  · rw [ended, List.nil_append] at left
    by_cases whole : s.frames = []
    · exact .both s.value (by rw [run_ended ended, whole]; rfl) (run_inGroup_whole left whole steps)
    · exact .fails (run_ended_open ended whole steps) (run_inGroup_open left whole steps)
  · have opened := run_ended_open (s := s.inGroup) passed s.inGroup_open (steps + 1)
    by_cases whole : s.frames = []
    · exact .passed s.value (by rw [run_ended ended, whole]; rfl)
        (by rw [run_ended passed, whole]; rfl) opened
    · exact .fails (run_ended_open ended whole steps) opened

theorem spliced {steps : Nat} {s : Parser} {cs : Chars} (enough : cs.length ≤ steps)
    (contained : s.escapes steps cs = false) :
    Spliced (s.run steps cs) (s.run (steps + 1) (cs ++ [')']))
      (s.inGroup.run (steps + 1) (cs ++ [')'])) := by
  induction steps generalizing s cs with
  | zero =>
    obtain rfl := List.eq_nil_of_length_eq_zero (Nat.le_zero.mp enough)
    exact spliced_of_ended s.flags.pass_nil 0
  | succ steps ih =>
    cases ahead : s.flags.pass cs with
    | nil => exact spliced_of_ended ahead (steps + 1)
    | cons c rest =>
      obtain ⟨inside, contained⟩ := (escapes_succ ahead steps).mp contained
      refine spliced_of_extends ahead inside fun t more stepped => ?_
      have := s.flags.length_pass_le cs
      have := length_step_lt stepped
      rw [ahead] at *
      exact ih (by omega) (contained t more stepped)

end Parser

/-- What a pattern is read as, before its limits are looked at. -/
def read? (pattern : Chars) : Option Piece := Parser.start.run pattern.length pattern

/-- Whether a pattern closes a group that it did not open. -/
def escapes (pattern : Chars) : Bool := Parser.start.escapes pattern.length pattern

/-- Whether a pattern ends in a comment, which takes in a parenthesis after it. -/
def endsInComment (pattern : Chars) : Bool :=
  (read? pattern).isSome && (read? (pattern ++ [')'])).isSome

def Piece.fits (p : Piece) : Bool := p.depth ≤ greatestDepth && p.layout.fits

theorem compile?_eq (pattern : Chars) :
    compile? pattern = (read? pattern).bind fun p => if p.fits then some p.expr else none := rfl

theorem read?_of_compile? {pattern : Chars} {e : Expr} (valid : compile? pattern = some e) :
    ∃ p, read? pattern = some p ∧ p.fits = true ∧ p.expr = e := by
  rw [compile?_eq] at valid
  obtain ⟨p, read, valid⟩ := Option.bind_eq_some_iff.mp valid
  split at valid <;> cases valid
  exact ⟨p, read, ‹_›, rfl⟩

theorem read?_anchored (pattern : Chars) :
    read? ("^(?:".toList ++ pattern ++ [')']) =
      Parser.start.inGroup.run (pattern.length + 1) (pattern ++ [')']) := by
  have opened : read? ("^(?:".toList ++ pattern ++ [')']) =
      Parser.start.inGroup.run (pattern.length + 3) (pattern ++ [')']) := by
    have length : ("^(?:".toList ++ pattern ++ [')']).length = pattern.length + 5 := by simp
    rw [read?, length]
    rfl
  rw [opened]
  exact Parser.run_of_le (by simp) (by omega)

theorem spliced_of_contained {pattern : Chars} (contained : escapes pattern = false) :
    Parser.Spliced (read? pattern) (read? (pattern ++ [')']))
      (read? ("^(?:".toList ++ pattern ++ [')'])) := by
  have closed : read? (pattern ++ [')']) =
      Parser.start.run (pattern.length + 1) (pattern ++ [')']) := by
    rw [read?, List.length_append, List.length_singleton]
  rw [read?_anchored, closed]
  exact Parser.spliced (Nat.le_refl _) contained

end LearningMap.Pattern
