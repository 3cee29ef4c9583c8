import LearningMap.Proofs.Pattern.Classes

/-!
# Steps with one closing parenthesis more

A step of the parser is the same when a closing parenthesis is put after the text. Where the text ends
too soon for a step, the parenthesis may complete it; but then no step leads on to a whole pattern.
-/

namespace LearningMap.Pattern

open Unicode (CharSet)

/-- The brace that closes the counts of a repetition. -/
def closeCounts (f : Flags) (least : Nat) (most : Option Nat) (cs : Chars) :
    Option ((Nat × Option Nat) × Chars) :=
  match cs with
  | '\x7d' :: rest => if most.all (least ≤ ·) then some ((least, most), f.pass rest) else none
  | _ => none

/-- What follows the comma between two counts. -/
def secondCount (f : Flags) (least : Option Nat) (cs : Chars) :
    Option ((Nat × Option Nat) × Chars) :=
  match cs with
  | [] => none
  | '\x7d' :: rest => least.bind fun least => closeCounts f least none ('\x7d' :: rest)
  | cs => least.bind fun least => (f.decimal cs).bind fun (most, rest) =>
      most.bind fun most => closeCounts f least (some most) rest

/-- What follows the first count. -/
def afterCount (f : Flags) (least : Option Nat) (cs : Chars) :
    Option ((Nat × Option Nat) × Chars) :=
  match cs with
  | ',' :: rest => secondCount f least (f.pass rest)
  | rest => least.bind fun least => closeCounts f least (some least) rest

/-- The counts of a repetition, as one outcome with what is left. -/
def counts (f : Flags) (cs : Chars) : Option ((Nat × Option Nat) × Chars) :=
  if (f.pass cs).isEmpty then none
  else (f.decimal (f.pass cs)).bind fun (least, rest) => afterCount f least rest

theorem closeCounts_eq (f : Flags) (least : Nat) (most : Option Nat) (cs : Chars) :
    closeCounts f least most cs = (match cs with
      | '\x7d' :: rest =>
        if most.all (least ≤ ·) then some (least, most, f.pass rest) else none
      | _ => none : Option (Nat × Option Nat × Chars)).map
        fun (least, most, rest) => ((least, most), rest) := by
  unfold closeCounts
  split
  · split <;> rfl
  · rfl

theorem secondCount_of_ne {f : Flags} {least : Option Nat} {cs : Chars} (some_left : cs ≠ [])
    (other : ∀ rest, cs ≠ '\x7d' :: rest) :
    secondCount f least cs = least.bind fun least => (f.decimal cs).bind fun (most, rest) =>
      most.bind fun most => closeCounts f least (some most) rest := by
  unfold secondCount
  split
  · contradiction
  next rest => exact absurd rfl (other rest)
  next => rfl

theorem afterCount_of_ne {f : Flags} {least : Option Nat} {cs : Chars}
    (other : ∀ rest, cs ≠ ',' :: rest) :
    afterCount f least cs = least.bind fun least => closeCounts f least (some least) cs := by
  unfold afterCount
  split
  next rest => exact absurd rfl (other rest)
  next => rfl

theorem counts_eq (f : Flags) (cs : Chars) :
    counts f cs =
      (Parser.readCounts f cs).map fun (least, most, rest) => ((least, most), rest) := by
  unfold counts Parser.readCounts
  dsimp only
  split
  · rfl
  cases f.decimal (f.pass cs) with
  | none => rfl
  | some x =>
    obtain ⟨least, rest⟩ := x
    simp only [Option.bind_some, Option.bind_eq_bind]
    by_cases comma : ∃ more, rest = ',' :: more
    · obtain ⟨more, rfl⟩ := comma
      simp only [afterCount]
      generalize f.pass more = ahead
      split
      next => rfl
      next rest =>
        cases least with
        | none => rfl
        | some least => exact closeCounts_eq f least none ('\x7d' :: rest)
      next empty closing =>
        rw [secondCount_of_ne empty closing]
        cases least with
        | none => rfl
        | some least =>
          cases f.decimal ahead with
          | none => rfl
          | some x =>
            obtain ⟨most, rest⟩ := x
            cases most with
            | none => rfl
            | some most => exact closeCounts_eq f least (some most) rest
    · rw [afterCount_of_ne fun more same => comma ⟨more, same⟩]
      split
      next more => exact absurd ⟨more, rfl⟩ comma
      next =>
        cases least with
        | none => rfl
        | some least => exact closeCounts_eq f least (some least) _

theorem extends_closeCounts (f : Flags) (least : Nat) (most : Option Nat) (cs : Chars) :
    Extends Never (closeCounts f least most cs) (closeCounts f least most (cs ++ [')'])) := by
  unfold closeCounts
  split
  next rest =>
    simp only [List.cons_append]
    split
    · exact .pass f (least, most) rest
    · exact .fails
  next other =>
    split
    next rest same => exact absurd same (ne_cons_append (by decide) other rest)
    next => exact .fails

theorem extends_secondCount (f : Flags) (least : Option Nat) (cs : Chars) :
    Extends Never (secondCount f least cs) (secondCount f least (cs ++ [')'])) := by
  by_cases ended : cs = []
  · subst ended
    have unread : secondCount f least [')'] = none := by
      rw [secondCount_of_ne (by simp) (by simp), f.decimal_parenthesis]
      cases least <;> rfl
    rw [List.nil_append, unread]
    exact .fails
  by_cases closing : ∃ rest, cs = '\x7d' :: rest
  · obtain ⟨rest, rfl⟩ := closing
    cases least with
    | none => exact .fails
    | some least => exact extends_closeCounts f least none ('\x7d' :: rest)
  have other (rest : Chars) : cs ≠ '\x7d' :: rest := fun same => closing ⟨rest, same⟩
  rw [secondCount_of_ne ended other, secondCount_of_ne (by simp) (ne_cons_append (by decide) other)]
  cases least with
  | none => exact .fails
  | some least =>
    refine (f.extends_decimal cs).bind (fun most rest => ?_) (fun most => ?_) fun _ _ => False.elim
    · cases most with
      | none => exact .fails
      | some most => exact extends_closeCounts f least (some most) rest
    · cases most <;> exact .fails

theorem extends_afterCount (f : Flags) (least : Option Nat) (cs : Chars) :
    Extends Never (afterCount f least cs) (afterCount f least (cs ++ [')'])) := by
  by_cases comma : ∃ rest, cs = ',' :: rest
  · obtain ⟨rest, rfl⟩ := comma
    exact .after_pass f (extends_secondCount f least _) .fails
  have other (rest : Chars) : cs ≠ ',' :: rest := fun same => comma ⟨rest, same⟩
  rw [afterCount_of_ne other, afterCount_of_ne (ne_cons_append (by decide) other)]
  cases least with
  | none => exact .fails
  | some least => exact extends_closeCounts f least (some least) cs

theorem extends_counts (f : Flags) (cs : Chars) :
    Extends Never (counts f cs) (counts f (cs ++ [')'])) := by
  unfold counts
  rcases f.pass_append cs with left | ⟨none_left, passed⟩
  case inr =>
    rw [none_left, passed]
    exact .fails
  rw [left]
  rcases f.pass cs with _ | ⟨c, rest⟩
  · rw [List.nil_append, f.decimal_parenthesis]
    exact .fails
  refine (f.extends_decimal (c :: rest)).bind (fun least rest => extends_afterCount f least rest)
    (fun least => ?_) fun _ _ => False.elim
  cases least <;> exact .fails

theorem length_closeCounts_lt {f : Flags} {least : Nat} {most : Option Nat} {cs rest : Chars}
    {n : Nat × Option Nat} (h : closeCounts f least most cs = some (n, rest)) :
    rest.length < cs.length := by
  unfold closeCounts at h
  split at h
  next rest' =>
    split at h <;> cases h
    exact Nat.lt_succ_of_le (f.length_pass_le rest')
  next => cases h

theorem length_secondCount_lt {f : Flags} {least : Option Nat} {cs rest : Chars}
    {n : Nat × Option Nat} (h : secondCount f least cs = some (n, rest)) :
    rest.length < cs.length := by
  unfold secondCount at h
  split at h
  · cases h
  · obtain ⟨least, -, h⟩ := Option.bind_eq_some_iff.mp h
    exact length_closeCounts_lt h
  · obtain ⟨least, -, h⟩ := Option.bind_eq_some_iff.mp h
    obtain ⟨⟨most, rest'⟩, read, h⟩ := Option.bind_eq_some_iff.mp h
    obtain ⟨most, -, h⟩ := Option.bind_eq_some_iff.mp h
    exact Nat.lt_of_lt_of_le (length_closeCounts_lt h) (Flags.length_decimal_le read)

theorem length_afterCount_lt {f : Flags} {least : Option Nat} {cs rest : Chars}
    {n : Nat × Option Nat} (h : afterCount f least cs = some (n, rest)) :
    rest.length < cs.length := by
  unfold afterCount at h
  split at h
  next rest' =>
    have := length_secondCount_lt h
    have := f.length_pass_le rest'
    simp only [List.length_cons]
    omega
  · obtain ⟨least, -, h⟩ := Option.bind_eq_some_iff.mp h
    exact length_closeCounts_lt h

theorem length_counts_lt {f : Flags} {cs rest : Chars} {n : Nat × Option Nat}
    (h : counts f cs = some (n, rest)) : rest.length < cs.length := by
  have pass := f.length_pass_le cs
  unfold counts at h
  split at h
  · cases h
  obtain ⟨⟨least, rest'⟩, read, h⟩ := Option.bind_eq_some_iff.mp h
  have := Flags.length_decimal_le read
  have := length_afterCount_lt h
  omega

namespace Parser

theorem readGreed_append (f : Flags) (cs : Chars) :
    readGreed f (cs ++ [')']) = ((readGreed f cs).1, (readGreed f cs).2 ++ [')']) := by
  by_cases sign : ∃ rest, cs = '?' :: rest
  · obtain ⟨rest, rfl⟩ := sign
    rfl
  have other (rest : Chars) : cs ≠ '?' :: rest := fun same => sign ⟨rest, same⟩
  have plain {cs : Chars} (other : ∀ rest, cs ≠ '?' :: rest) :
      readGreed f cs = (f.swapGreed, cs) := by
    unfold readGreed
    split
    next rest => exact absurd rfl (other rest)
    next => rfl
  rw [plain other, plain (ne_cons_append (by decide) other)]

theorem length_readGreed_le (f : Flags) (cs : Chars) : (readGreed f cs).2.length ≤ cs.length := by
  unfold readGreed
  split
  · exact Nat.le_succ _
  · exact Nat.le_refl _

theorem length_repeatLast_le {s t : Parser} {least : Nat} {most : Option Nat} {cs rest : Chars}
    (h : s.repeatLast least most cs = some (t, rest)) : rest.length ≤ cs.length := by
  have greed := length_readGreed_le s.flags cs
  unfold repeatLast at h
  split at h
  next p ps _ =>
    dsimp only at h
    split at h <;> cases h
    exact greed
  next => cases h

theorem extends_repeatLast (s : Parser) (least : Nat) (most : Option Nat) (cs : Chars) :
    Extends Never (s.repeatLast least most cs) (s.repeatLast least most (cs ++ [')'])) := by
  unfold repeatLast
  split
  next p ps _ =>
    rw [readGreed_append]
    dsimp only
    split
    · exact .left _ (readGreed s.flags cs).2
    · exact .fails
  next => exact .fails

/-- The signs of a group, after the question mark, that ask about what stands around. -/
def lookarounds : List Chars := [['='], ['!'], ['<', '='], ['<', '!']]

def lookaround (cs : Chars) : Bool := lookarounds.any (·.isPrefixOf cs)

/-- What follows the signs of a group, after the question mark, that has a name. -/
def name? (cs : Chars) : Option Chars :=
  if ['P', '<'].isPrefixOf cs then some (cs.drop 2)
  else if ['<'].isPrefixOf cs then some (cs.drop 1)
  else none

def namedGroup (s : Parser) (cs : Chars) : Option (Parser × Chars) :=
  match readName cs with
  | some (name, rest) =>
    if s.names.contains name then none
    else some ({ s.openGroup s.flags true with names := name :: s.names }, rest)
  | none => none

def flagGroup (s : Parser) (cs : Chars) : Option (Parser × Chars) :=
  match readFlags [] false false cs with
  | some (letters, sign, rest) =>
    let flags := letters.foldl (fun f (l, on) => f.set l on) s.flags
    if sign = ':' then some (s.openGroup flags false, rest)
    else if letters.isEmpty then none
    else some ({ s with flags }.push .flags, rest)
  | none => none

theorem isPrefixOf_eq_false {p cs : Chars} (other : ∀ rest, cs ≠ p ++ rest) :
    p.isPrefixOf cs = false := by
  rw [Bool.eq_false_iff, Ne, List.isPrefixOf_iff_prefix]
  rintro ⟨rest, same⟩
  exact other rest same.symm

theorem readGroup_of_mark {s : Parser} {cs rest : Chars} (ahead : s.flags.pass cs = '?' :: rest) :
    s.readGroup cs = if lookaround rest then none
      else match name? rest with
        | some rest => s.namedGroup rest
        | none => s.flagGroup rest := by
  unfold readGroup
  rw [ahead]
  split
  · simp_all [lookaround, lookarounds]
  · simp_all [lookaround, lookarounds]
  · simp_all [lookaround, lookarounds]
  · simp_all [lookaround, lookarounds]
  next same =>
    obtain rfl := (List.cons.inj same).2
    rfl
  next rest' equal unequal same =>
    obtain rfl := (List.cons.inj same).2
    have none_around : lookaround ('<' :: rest') = false := by
      simp only [lookaround, lookarounds, List.any_cons, List.any_nil, Bool.or_false,
        Bool.or_eq_false_iff]
      exact ⟨rfl, rfl, isPrefixOf_eq_false (p := ['=']) equal,
        isPrefixOf_eq_false (p := ['!']) unequal⟩
    rw [none_around]
    rfl
  next equal unequal behind notBehind named named' same =>
    obtain rfl := (List.cons.inj same).2
    have none_around : lookaround rest = false := by
      simp only [lookaround, lookarounds, List.any_cons, List.any_nil, Bool.or_false,
        Bool.or_eq_false_iff]
      exact ⟨isPrefixOf_eq_false (p := ['=']) equal, isPrefixOf_eq_false (p := ['!']) unequal,
        isPrefixOf_eq_false (p := ['<', '=']) behind,
        isPrefixOf_eq_false (p := ['<', '!']) notBehind⟩
    have unnamed : name? rest = none := by
      rw [name?, isPrefixOf_eq_false (p := ['P', '<']) named,
        isPrefixOf_eq_false (p := ['<']) named']
      rfl
    rw [none_around, unnamed]
    rfl
  next other => exact absurd rfl (other rest)

theorem readGroup_of_ne {s : Parser} {cs : Chars} (other : ∀ rest, s.flags.pass cs ≠ '?' :: rest) :
    s.readGroup cs = some (s.openGroup s.flags true, s.flags.pass cs) := by
  unfold readGroup
  split
  all_goals first | rfl | exact absurd ‹_› (other _)

theorem isPrefixOf_append {p : Chars} (other : ')' ∉ p) (cs : Chars) :
    p.isPrefixOf (cs ++ [')']) = p.isPrefixOf cs := by
  rw [Bool.eq_iff_iff, List.isPrefixOf_iff_prefix, List.isPrefixOf_iff_prefix,
    List.prefix_concat_iff]
  exact or_iff_right fun same => other (by simp [same])

theorem lookaround_append (cs : Chars) : lookaround (cs ++ [')']) = lookaround cs := by
  simp [lookaround, lookarounds, isPrefixOf_append]

theorem name?_append (cs : Chars) : name? (cs ++ [')']) = (name? cs).map (· ++ [')']) := by
  unfold name?
  rw [isPrefixOf_append (by decide), isPrefixOf_append (by decide)]
  split
  next starts =>
    obtain ⟨rest, rfl⟩ := List.isPrefixOf_iff_prefix.mp starts
    rfl
  split
  next starts =>
    obtain ⟨rest, rfl⟩ := List.isPrefixOf_iff_prefix.mp starts
    rfl
  next => rfl

theorem extends_namedGroup (s : Parser) (cs : Chars) :
    Extends AtEnd (s.namedGroup cs) (s.namedGroup (cs ++ [')'])) := by
  have read := extends_readName cs
  unfold namedGroup
  generalize readName cs = a at read ⊢
  generalize readName (cs ++ [')']) = b at read ⊢
  cases read with
  | left name rest =>
    dsimp only
    split
    · exact .fails
    · exact .left _ rest
  | passed name =>
    dsimp only
    split
    · exact .fails
    · exact .passed _
  | fails => exact .fails
  | late _ _ never => exact never.elim

theorem extends_flagGroup (s : Parser) (cs : Chars) :
    Extends AtEnd (s.flagGroup cs) (s.flagGroup (cs ++ [')'])) := by
  unfold flagGroup
  rcases readFlags_append [] false false cs with ⟨letters, sign, rest, read, read'⟩ | ⟨unread, late⟩
  · rw [read, read']
    dsimp only
    split_ifs
    · exact .left _ rest
    · exact .fails
    · exact .left _ rest
  · rw [unread]
    rcases late with unread' | ⟨letters, read'⟩
    · rw [unread']
      exact .fails
    · rw [read']
      dsimp only
      split_ifs
      · exact Extends.late _ [] rfl
      · exact .fails
      · exact Extends.late _ [] rfl

theorem extends_readGroup (s : Parser) (cs : Chars) :
    Extends AtEnd (s.readGroup cs) (s.readGroup (cs ++ [')'])) := by
  rcases s.flags.pass_append cs with left | ⟨none_left, passed⟩
  case inr =>
    rw [readGroup_of_ne (by simp [none_left]), readGroup_of_ne (by simp [passed]), none_left, passed]
    exact .passed _
  by_cases mark : ∃ rest, s.flags.pass cs = '?' :: rest
  · obtain ⟨rest, ahead⟩ := mark
    have ahead' : s.flags.pass (cs ++ [')']) = '?' :: (rest ++ [')']) := by
      rw [left, ahead, List.cons_append]
    rw [readGroup_of_mark ahead, readGroup_of_mark ahead', lookaround_append, name?_append]
    split
    · exact .fails
    cases name? rest with
    | none => exact extends_flagGroup s rest
    | some rest => exact extends_namedGroup s rest
  · have other (rest : Chars) : s.flags.pass cs ≠ '?' :: rest := fun same => mark ⟨rest, same⟩
    rw [readGroup_of_ne other, readGroup_of_ne (left ▸ ne_cons_append (by decide) other), left]
    exact .left _ _

theorem length_namedGroup_le {s t : Parser} {cs rest : Chars}
    (h : s.namedGroup cs = some (t, rest)) : rest.length ≤ cs.length := by
  unfold namedGroup at h
  split at h
  next name rest' read =>
    split at h <;> cases h
    exact (length_readName_lt read).le
  next => cases h

theorem length_flagGroup_le {s t : Parser} {cs rest : Chars}
    (h : s.flagGroup cs = some (t, rest)) : rest.length ≤ cs.length := by
  unfold flagGroup at h
  split at h
  next letters sign rest' read =>
    dsimp only at h
    have := length_readFlags_lt read
    split_ifs at h <;> cases h <;> omega
  next => cases h

theorem length_name?_le {cs rest : Chars} (h : name? cs = some rest) : rest.length ≤ cs.length := by
  unfold name? at h
  split_ifs at h <;> cases h <;> simp

theorem length_readGroup_le {s t : Parser} {cs rest : Chars}
    (h : s.readGroup cs = some (t, rest)) : rest.length ≤ cs.length := by
  have pass := s.flags.length_pass_le cs
  by_cases mark : ∃ rest, s.flags.pass cs = '?' :: rest
  · obtain ⟨rest', ahead⟩ := mark
    rw [ahead, List.length_cons] at pass
    rw [readGroup_of_mark ahead] at h
    split at h
    · cases h
    split at h
    next named =>
      have := length_name?_le named
      have := length_namedGroup_le h
      omega
    next =>
      have := length_flagGroup_le h
      omega
  · rw [readGroup_of_ne fun rest same => mark ⟨rest, same⟩] at h
    cases h
    exact pass

/-- What no step leads on from to a whole pattern. -/
def Lost (s : Parser) (rest : Chars) : Prop := rest = [] ∨ s.flags.Dangling rest

/-- What an escape stands for is a part of the pattern. -/
def pushEscape (s : Parser) : Primitive × Chars → Option (Parser × Chars)
  | (.literal c byte, rest) => do pure (s.push (.ofSet s.flags (← s.flags.literal c byte)), rest)
  | (.set set, rest) => pure (s.push (.ofSet s.flags set), rest)
  | (.look l, rest) => pure (s.push (.ofLook l), rest)

theorem readPrimitive_escape (s : Parser) (cs : Chars) :
    s.readPrimitive ('\\' :: cs) = (s.flags.escape cs).bind s.pushEscape := by
  simp only [readPrimitive]
  cases s.flags.escape cs with
  | none => rfl
  | some x =>
    obtain ⟨p, rest⟩ := x
    cases p <;> rfl

theorem extends_pushEscape (s : Parser) (p : Primitive) (rest : Chars) :
    Extends Never (s.pushEscape (p, rest)) (s.pushEscape (p, rest ++ [')'])) := by
  cases p with
  | literal c byte =>
    simp only [pushEscape]
    cases s.flags.literal c byte with
    | none => exact .fails
    | some set => exact .left _ rest
  | set set => exact .left _ rest
  | look l => exact .left _ rest

theorem rest_of_pushEscape {s t : Parser} {p : Primitive} {r rest : Chars}
    (h : s.pushEscape (p, r) = some (t, rest)) : rest = r ∧ t.flags = s.flags := by
  cases p with
  | literal c byte =>
    obtain ⟨set, -, h⟩ := Option.bind_eq_some_iff.mp h
    cases h
    exact ⟨rfl, rfl⟩
  | set set =>
    cases h
    exact ⟨rfl, rfl⟩
  | look l =>
    cases h
    exact ⟨rfl, rfl⟩

/-- What is no escape is read from one character. -/
theorem readPrimitive_of_ne {s : Parser} {c : Char} (other : c ≠ '\\') (cs : Chars) :
    s.readPrimitive (c :: cs) = (s.readPrimitive [c]).map fun (t, _) => (t, cs) := by
  unfold readPrimitive
  split
  next same => exact absurd (List.cons.inj same).1 other
  next same =>
    obtain ⟨rfl, rfl⟩ := List.cons.inj same
    simp only
    split_ifs <;> rfl
  next same =>
    obtain ⟨rfl, rfl⟩ := List.cons.inj same
    rfl
  next same =>
    obtain ⟨rfl, rfl⟩ := List.cons.inj same
    rfl
  next slash dot start last same =>
    obtain ⟨rfl, rfl⟩ := List.cons.inj same
    simp only
    cases s.flags.literal c false <;> rfl
  next same => cases same

theorem extends_readPrimitive (s : Parser) (c : Char) (cs : Chars) :
    Extends Lost (s.readPrimitive (c :: cs)) (s.readPrimitive (c :: cs ++ [')'])) := by
  by_cases slash : c = '\\'
  · subst slash
    rw [List.cons_append, readPrimitive_escape, readPrimitive_escape]
    refine (s.flags.extends_escape cs).bind
      (fun p rest => (extends_pushEscape s p rest).of_never)
      (fun p => .of_nothing fun t rest h => by rw [(rest_of_pushEscape h).1]; rfl)
      fun p rest unfinished => ?_
    cases pushed : s.pushEscape (p, rest) with
    | none => exact .fails
    | some x =>
      obtain ⟨t, rest'⟩ := x
      obtain ⟨rfl, same⟩ := rest_of_pushEscape pushed
      refine .late t rest' ?_
      rcases unfinished with ended | ⟨-, dangling⟩
      · exact .inl ended
      · exact .inr (same ▸ dangling)
  rw [List.cons_append, readPrimitive_of_ne slash cs, readPrimitive_of_ne slash (cs ++ [')'])]
  cases s.readPrimitive [c] with
  | none => exact .fails
  | some x => exact .left _ cs

theorem length_readPrimitive_lt {s t : Parser} {cs rest : Chars}
    (h : s.readPrimitive cs = some (t, rest)) : rest.length < cs.length := by
  rcases cs with _ | ⟨c, cs⟩
  · cases h
  rw [List.length_cons]
  by_cases slash : c = '\\'
  · subst slash
    rw [readPrimitive_escape] at h
    obtain ⟨⟨p, rest'⟩, read, h⟩ := Option.bind_eq_some_iff.mp h
    obtain ⟨rfl, -⟩ := rest_of_pushEscape h
    have := Flags.length_escape_le read
    omega
  · rw [readPrimitive_of_ne slash] at h
    obtain ⟨x, -, same⟩ := Option.map_eq_some_iff.mp h
    cases same
    exact Nat.lt_succ_self _

/-- A class as a part of the pattern. -/
def pushClass (s : Parser) : ClassPart × Chars → Option (Parser × Chars)
  | (p, rest) => some (s.push { Piece.ofSet s.flags p.set with depth := p.depth }, rest)

theorem step_bracket (s : Parser) (cs : Chars) :
    s.step ('[' :: cs) = (openClass s.flags cs).bind fun (level, rest) =>
      (readClass s.flags rest.length level [] rest).bind s.pushClass := rfl

theorem step_brace (s : Parser) (cs : Chars) :
    s.step ('\x7b' :: cs) = (counts s.flags cs).bind fun ((least, most), rest) =>
      s.repeatLast least most rest := by
  rw [counts_eq]
  simp only [step]
  cases readCounts s.flags cs <;> rfl

theorem extends_step_bracket (s : Parser) (cs : Chars) :
    Extends Never (s.step ('[' :: cs)) (s.step ('[' :: (cs ++ [')']))) := by
  rw [step_bracket, step_bracket]
  refine (extends_openClass s.flags cs).bind (fun level rest => ?_) (fun level => ?_)
    fun level rest almost => ?_
  · dsimp only
    rw [List.length_append, List.length_singleton]
    exact (extends_readClass (Nat.le_refl _) level []).bind (fun p rest => .left _ rest)
      (fun p => .passed _) fun _ _ => False.elim
  · simp only [readClass_nil s.flags.pass_nil]
    exact .fails
  · rcases almost with rfl | rfl
    · simp only [readClass_nil s.flags.pass_nil]
      exact .fails
    · simp only [readClass_parenthesis (s.flags.pass_parenthesis [])]
      exact .fails

theorem extends_step_brace (s : Parser) (cs : Chars) :
    Extends Never (s.step ('\x7b' :: cs)) (s.step ('\x7b' :: (cs ++ [')']))) := by
  rw [step_brace, step_brace]
  refine (extends_counts s.flags cs).bind
    (fun (least, most) rest => extends_repeatLast s least most rest)
    (fun (least, most) => .of_nothing fun _ _ h => length_repeatLast_le h) fun _ _ => False.elim

/-- The characters with which something other than a character, a set or a place starts. -/
def signs : List Char := ['(', ')', '|', '[', '?', '*', '+', '\x7b']

theorem step_of_plain {s : Parser} {c : Char} (plain : c ∉ signs) (cs : Chars) :
    s.step (c :: cs) = s.readPrimitive (c :: cs) := by
  unfold step
  split <;> simp_all [signs]

theorem extends_step (s : Parser) (c : Char) (cs : Chars) :
    Extends Lost (s.step (c :: cs)) (s.step (c :: cs ++ [')'])) := by
  by_cases plain : c ∉ signs
  · rw [List.cons_append, step_of_plain plain, step_of_plain plain]
    exact extends_readPrimitive s c cs
  simp only [signs, List.mem_cons, List.not_mem_nil, or_false, not_not] at plain
  rcases plain with rfl | rfl | rfl | rfl | rfl | rfl | rfl | rfl
  · exact (extends_readGroup s cs).mono fun _ _ => .inl
  · simp only [List.cons_append, step]
    cases s.closeGroup with
    | none => exact .fails
    | some t => exact .left t cs
  · exact .left s.bar cs
  · exact (extends_step_bracket s cs).of_never
  · exact (extends_repeatLast s 0 (some 1) cs).of_never
  · exact (extends_repeatLast s 0 none cs).of_never
  · exact (extends_repeatLast s 1 none cs).of_never
  · exact (extends_step_brace s cs).of_never

theorem length_step_lt {s t : Parser} {cs rest : Chars} (h : s.step cs = some (t, rest)) :
    rest.length < cs.length := by
  unfold step at h
  split at h
  next cs => exact Nat.lt_succ_of_le (length_readGroup_le h)
  next cs =>
    obtain ⟨u, -, same⟩ := Option.bind_eq_some_iff.mp h
    cases same
    exact Nat.lt_succ_self _
  next cs =>
    cases h
    exact Nat.lt_succ_self _
  next cs =>
    obtain ⟨⟨level, rest'⟩, opened, h⟩ := Option.bind_eq_some_iff.mp h
    obtain ⟨⟨p, rest''⟩, read, same⟩ := Option.bind_eq_some_iff.mp h
    cases same
    exact Nat.lt_succ_of_le ((length_readClass_le read).trans (length_openClass_le opened))
  next cs => exact Nat.lt_succ_of_le (length_repeatLast_le h)
  next cs => exact Nat.lt_succ_of_le (length_repeatLast_le h)
  next cs => exact Nat.lt_succ_of_le (length_repeatLast_le h)
  next cs =>
    replace h := (step_brace s cs).symm.trans h
    obtain ⟨⟨⟨least, most⟩, rest'⟩, read, h⟩ := Option.bind_eq_some_iff.mp h
    have := length_counts_lt read
    have := length_repeatLast_le h
    simp only [List.length_cons]
    omega
  next => exact length_readPrimitive_lt h

end Parser

end LearningMap.Pattern
