import LearningMap.Proofs.Answer.Grading
import LearningMap.Proofs.Pattern.Splicing

/-!
# Stored patterns as anchored

A stored pattern is put in a group after the sign for the start of the text. A pattern that keeps to
its group is only anchored by that: it accepts a text exactly if it matches at the start. One that
closes the group itself is read otherwise, though it is no pattern on its own. The group takes some
room too, so what just fits on its own may not fit then.
-/

namespace LearningMap.Pattern

theorem length_bytes_append (cs ds : List Char) :
    (Text.bytes (cs ++ ds)).length = (Text.bytes cs).length + (Text.bytes ds).length := by
  have size (cs : List Char) : (Text.bytes cs).length = (String.ofList cs).utf8ByteSize := rfl
  simp [size, String.ofList_append]

namespace Size

variable (a b : Size) (n : Nat)

@[simp] theorem forward_add : (a + b).forward = a.forward + b.forward := rfl

@[simp] theorem backward_add : (a + b).backward = a.backward + b.backward := rfl

@[simp] theorem forward_both : (both n).forward = n := rfl

@[simp] theorem backward_both : (both n).backward = n := rfl

end Size

namespace Layout

theorem joinWords_cons (p : Layout) (ps : List Layout) :
    joinWords (p :: ps) = p :: joinWords ps ∨
      ∃ cs ds qs, p = word cs ∧ joinWords ps = word ds :: qs ∧
        joinWords (p :: ps) = word (cs ++ ds) :: qs := by
  cases p with
  | word cs =>
    rw [joinWords]
    split
    next ds qs joined => exact .inr ⟨cs, ds, qs, rfl, joined, rfl⟩
    next => exact .inl rfl
  | _ => exact .inl (by simp [joinWords])

theorem sizes_joinWords (ps : List Layout) :
    (sizes (joinWords ps)).forward = (sizes ps).forward ∧
      (sizes (joinWords ps)).backward = (sizes ps).backward := by
  induction ps with
  | nil => exact ⟨rfl, rfl⟩
  | cons p ps ih =>
    rcases joinWords_cons p ps with same | ⟨cs, ds, qs, rfl, joined, same⟩
    · simpa [same, sizes] using ih
    · simp only [joined, same, sizes, size, Size.forward_add, Size.backward_add, Size.forward_both,
        Size.backward_both, length_bytes_append, Nat.mul_add] at ih ⊢
      omega

theorem allOnlyEmpty_joinWords (ps : List Layout) :
    allOnlyEmpty (joinWords ps) = allOnlyEmpty ps := by
  induction ps with
  | nil => rfl
  | cons p ps ih =>
    rcases joinWords_cons p ps with same | ⟨cs, ds, qs, rfl, joined, same⟩
    · rw [same, allOnlyEmpty, allOnlyEmpty, ih]
    · simp [same, allOnlyEmpty, onlyEmpty]

theorem someToEnd_joinWords (ps : List Layout) : someToEnd (joinWords ps) = someToEnd ps := by
  induction ps with
  | nil => rfl
  | cons p ps ih =>
    rcases joinWords_cons p ps with same | ⟨cs, ds, qs, rfl, joined, same⟩
    · rw [same, someToEnd, someToEnd, ih, allOnlyEmpty_joinWords]
    · simp only [joined, someToEnd, toEnd, Bool.false_and, Bool.or_false] at ih
      simp [same, someToEnd, toEnd, ih]

/-- What is laid out for a pattern after the sign for the start. -/
def anchored (p : Layout) : Layout := ofRow [.look .textStart, p]

theorem anchored_eq (p : Layout) :
    p.anchored = if (joinWords p.parts).isEmpty then .look .textStart
      else .row (.look .textStart :: joinWords p.parts) := by
  have joined : joinWords ([.look .textStart, p].flatMap parts) =
      .look .textStart :: joinWords p.parts := by
    simp [parts, joinWords]
  rw [anchored, ofRow, joined]
  cases joinWords p.parts <;> rfl

theorem fromStart_anchored (p : Layout) : p.anchored.fromStart = true := by
  rw [anchored_eq]
  split <;> rfl

theorem someToEnd_parts (p : Layout) : someToEnd p.parts = p.toEnd := by
  cases p <;> simp [parts, someToEnd, toEnd, allOnlyEmpty]

theorem toEnd_anchored (p : Layout) : p.anchored.toEnd = p.toEnd := by
  rw [← someToEnd_parts p, ← someToEnd_joinWords, anchored_eq]
  cases joinWords p.parts <;> simp [toEnd, someToEnd]

theorem sizes_parts (p : Layout) :
    (sizes p.parts).forward = p.size.forward ∧ (sizes p.parts).backward = p.size.backward ∨
      p = empty := by
  cases p <;> simp [parts, sizes, size, Size.zero]

theorem size_anchored (p : Layout) :
    p.anchored.size.forward ≤ p.size.forward + Size.state ∧
      p.size.forward ≤ p.anchored.size.forward ∧
      p.anchored.size.backward ≤ p.size.backward + Size.state ∧
      p.size.backward ≤ p.anchored.size.backward := by
  have joined := sizes_joinWords p.parts
  have whole : p.anchored.size.forward = Size.state + (sizes (joinWords p.parts)).forward ∧
      p.anchored.size.backward = Size.state + (sizes (joinWords p.parts)).backward := by
    rw [anchored_eq]
    cases joinWords p.parts <;> simp [size, sizes, Size.zero]
  rcases sizes_parts p with parts | rfl
  · omega
  · simp [anchored_eq, parts, joinWords, size]

def total (p : Layout) : Size :=
  p.size + ⟨opening p.fromStart + 3 * Size.state, opening p.toEnd + Size.state⟩

theorem fits_eq (p : Layout) : p.fits = p.total.fits := rfl

end Layout

namespace Piece

/-- Neither the group nor the sign for the start, nor a loop that the sign spares, can make the
difference between what fits and what does not. -/
structure ClearOfLimits (p : Piece) : Prop where
  depth : p.depth + 2 ≤ greatestDepth ∨ greatestDepth < p.depth
  forward : p.layout.total.forward + Size.state ≤ Size.limit ∨
    Size.limit + 2 * Size.state + 16 < p.layout.total.forward
  backward : p.layout.total.backward + Size.state ≤ Size.limit ∨
    Size.limit < p.layout.total.backward

theorem clearOfLimits_iff (p : Piece) :
    p.ClearOfLimits ↔
      (p.depth + 2 ≤ greatestDepth ∨ greatestDepth < p.depth) ∧
      (p.layout.total.forward + Size.state ≤ Size.limit ∨
        Size.limit + 2 * Size.state + 16 < p.layout.total.forward) ∧
      (p.layout.total.backward + Size.state ≤ Size.limit ∨
        Size.limit < p.layout.total.backward) :=
  ⟨fun h => ⟨h.depth, h.forward, h.backward⟩, fun h => ⟨h.1, h.2.1, h.2.2⟩⟩

instance (p : Piece) : Decidable p.ClearOfLimits := decidable_of_iff _ p.clearOfLimits_iff.symm

theorem depth_anchored (p : Piece) : p.anchored.depth = p.depth + 2 := by
  simp [anchored, sequence, group, ofLook, leaf]

theorem layout_anchored (p : Piece) : p.anchored.layout = p.layout.anchored := rfl

theorem expr_anchored (p : Piece) : p.anchored.expr = .seq (.look .textStart) p.expr := by
  simp [anchored, sequence, group, ofLook, leaf, Expr.sequence]

theorem fits_iff (p : Piece) :
    p.fits = true ↔ p.depth ≤ greatestDepth ∧ p.layout.total.forward ≤ Size.limit ∧
      p.layout.total.backward ≤ Size.limit := by
  simp [fits, Layout.fits_eq, Size.fits]

theorem fits_anchored {p : Piece} (clear : p.ClearOfLimits) : p.anchored.fits = p.fits := by
  obtain ⟨depth, forward, backward⟩ := clear
  have size := p.layout.size_anchored
  have opening : Layout.opening p.layout.fromStart = Size.state ∨
      Layout.opening p.layout.fromStart = 3 * Size.state + 16 := by
    unfold Layout.opening
    split
    · exact .inl rfl
    · exact .inr rfl
  have anchored : Layout.opening p.layout.anchored.fromStart = Size.state := by
    rw [Layout.fromStart_anchored]
    rfl
  rw [Bool.eq_iff_iff, fits_iff, fits_iff, depth_anchored, layout_anchored]
  simp only [Layout.total, Size.forward_add, Size.backward_add, anchored,
    Layout.toEnd_anchored] at forward backward ⊢
  omega

end Piece

theorem compileAnchored?_of_both {pattern : Chars} {p : Piece}
    (read : read? ("^(?:".toList ++ pattern ++ [')']) = some p.anchored) :
    compileAnchored? pattern =
      if p.anchored.fits then some (.seq (.look .textStart) p.expr) else none := by
  rw [compileAnchored?, compile?_eq, read, Option.bind_some, Piece.expr_anchored]

theorem compileAnchored?_of_none {pattern : Chars}
    (unread : read? ("^(?:".toList ++ pattern ++ [')']) = none) :
    compileAnchored? pattern = none := by
  rw [compileAnchored?, compile?_eq, unread, Option.bind_none]

theorem compile?_of_escapes {pattern : Chars} (escaped : escapes pattern = true) :
    compile? pattern = none := by
  by_contra valid
  obtain ⟨e, valid⟩ := Option.ne_none_iff_exists'.mp valid
  obtain ⟨p, read, -⟩ := read?_of_compile? valid
  have contained : escapes pattern = false := Parser.not_escapes_of_run read
  simp [contained] at escaped

/-- A pattern that is valid on its own and also as anchored is anchored by that and no more. -/
theorem compileAnchored?_of_compile? {pattern : Chars} {e : Expr}
    (valid : compile? pattern = some e) (anchored : (compileAnchored? pattern).isSome = true) :
    compileAnchored? pattern = some (.seq (.look .textStart) e) := by
  obtain ⟨p, read, -, rfl⟩ := read?_of_compile? valid
  cases spliced_of_contained (Parser.not_escapes_of_run read) with
  | both q read' around =>
    obtain rfl := Option.some.inj (read.symm.trans read')
    rw [compileAnchored?_of_both around] at anchored ⊢
    split at anchored
    · rw [if_pos ‹_›]
    · cases anchored
  | passed q read' closed around => simp [compileAnchored?_of_none around] at anchored
  | fails unread around => simp [read] at unread

/-- A pattern that keeps to its group, does not end in a comment and is clear of the limits is valid
as anchored exactly if it is valid on its own. -/
theorem compileAnchored?_of_contained {pattern : Chars} (contained : escapes pattern = false)
    (closes : endsInComment pattern = false)
    (clear : ∀ p ∈ read? pattern, p.ClearOfLimits) :
    compileAnchored? pattern = (compile? pattern).map (.seq (.look .textStart)) := by
  cases spliced_of_contained contained with
  | both p read around =>
    rw [compileAnchored?_of_both around, Piece.fits_anchored (clear p read), compile?_eq, read]
    cases fits : p.fits <;> simp [fits]
  | passed p read closed around => simp [endsInComment, read, closed] at closes
  | fails unread around => rw [compileAnchored?_of_none around, compile?_eq, unread]; rfl

end LearningMap.Pattern

namespace LearningMap.Strategy

open Pattern

variable {text pattern : String}

/-- A pattern is valid on its own and matches a piece at the start of a text. -/
def MatchesAtStart (pattern text : String) : Prop :=
  ∃ e, compile? pattern.toList = some e ∧ ∃ j, e.Matches text.toList 0 j

theorem check_regex_iff : regex.check text [pattern] = some true ↔ regex.Accepts text pattern := by
  simp [check, patternAccepts_iff]

theorem accepts_of_anchored {e : Expr}
    (anchored : compileAnchored? pattern.toList = some (.seq (.look .textStart) e)) :
    regex.Accepts text pattern ↔ ∃ j, e.Matches text.toList 0 j := by
  simp [Accepts, anchored, Expr.search_textStart_iff]

/-- A pattern that is valid both on its own and as anchored accepts exactly the texts that it
matches at their start, and one that keeps to its group is valid in both ways or in none. What keeps
a pattern from that is a parenthesis that closes the group, a comment at the end, or a size or depth
that just reaches a limit. A pattern that closes the group is not valid on its own. -/
theorem splicing_only_anchors (pattern text : String) :
    (∀ e, compile? pattern.toList = some e → (compileAnchored? pattern.toList).isSome = true →
      (regex.check text [pattern] = some true ↔ ∃ j, e.Matches text.toList 0 j)) ∧
    (escapes pattern.toList = false → endsInComment pattern.toList = false →
      (∀ p ∈ read? pattern.toList, p.ClearOfLimits) →
      ((compileAnchored? pattern.toList).isSome = true ↔
        (compile? pattern.toList).isSome = true) ∧
      (regex.check text [pattern] = some true ↔ MatchesAtStart pattern text)) ∧
    (escapes pattern.toList = true → compile? pattern.toList = none) := by
  refine ⟨fun e valid anchored => ?_, fun contained closes clear => ?_, compile?_of_escapes⟩
  · rw [check_regex_iff]
    exact accepts_of_anchored (compileAnchored?_of_compile? valid anchored)
  · have anchored := compileAnchored?_of_contained contained closes clear
    rw [check_regex_iff, MatchesAtStart]
    cases valid : compile? pattern.toList with
    | none =>
      rw [valid, Option.map_none] at anchored
      simp [anchored, Accepts]
    | some e =>
      rw [valid, Option.map_some] at anchored
      simp [anchored, accepts_of_anchored anchored]

/-- A digit or a letter at the start, a digit that comes later, and a pattern that closes the
group. -/
theorem splicing_only_anchors_alternatives :
    escapes "[0-9]|x".toList = false ∧ endsInComment "[0-9]|x".toList = false ∧
      (∀ p ∈ read? "[0-9]|x".toList, p.ClearOfLimits) ∧
      MatchesAtStart "[0-9]|x" "4x" ∧ ¬ MatchesAtStart "[0-9]|x" "a4" ∧
      (∃ e, compile? "[0-9]|x".toList = some e ∧ ¬ ∃ j, e.Matches "a4".toList 0 j) ∧
      escapes "a)|(b".toList = true ∧ compile? "a)|(b".toList = none := by
  have contained : escapes "[0-9]|x".toList = false := by decide +kernel
  have closes : endsInComment "[0-9]|x".toList = false := by decide +kernel
  have clear : ∀ p ∈ read? "[0-9]|x".toList, p.ClearOfLimits := by decide +kernel
  have valid : (compile? "[0-9]|x".toList).isSome = true := by decide +kernel
  have anchored : (compileAnchored? "[0-9]|x".toList).isSome = true := by decide +kernel
  have accepted : regex.check "4x" ["[0-9]|x"] = some true := by decide +kernel
  have refused : regex.check "a4" ["[0-9]|x"] ≠ some true := by decide +kernel
  have escaped : escapes "a)|(b".toList = true := by decide +kernel
  obtain ⟨e, valid⟩ := Option.isSome_iff_exists.mp valid
  refine ⟨contained, closes, clear, ?_, fun matched => refused ?_,
    ⟨e, valid, fun matched => refused ?_⟩, escaped, ?_⟩
  · exact ((splicing_only_anchors "[0-9]|x" "4x").2.1 contained closes clear).2.mp accepted
  · exact ((splicing_only_anchors "[0-9]|x" "a4").2.1 contained closes clear).2.mpr matched
  · exact ((splicing_only_anchors "[0-9]|x" "a4").1 e valid anchored).mpr matched
  · exact (splicing_only_anchors "a)|(b" "xb").2.2 escaped

/-- A pattern that closes the group and opens another one is valid only as anchored, and accepts a
text that its end matches later than at the start. -/
theorem splicing_lets_escape :
    ¬ ((compileAnchored? "a)|(b".toList).isSome = true ↔
        (compile? "a)|(b".toList).isSome = true) ∧
      ¬ (regex.check "xb" ["a)|(b"] = some true ↔ MatchesAtStart "a)|(b" "xb") := by
  have invalid : compile? "a)|(b".toList = none := by decide +kernel
  have anchored : (compileAnchored? "a)|(b".toList).isSome = true := by decide +kernel
  have accepted : regex.check "xb" ["a)|(b"] = some true := by decide +kernel
  refine ⟨fun same => ?_, fun same => ?_⟩
  · have valid := same.mp anchored
    rw [invalid] at valid
    cases valid
  · obtain ⟨e, valid, -⟩ := same.mp accepted
    rw [invalid] at valid
    cases valid

/-- A comment at the end takes in the parenthesis that should close the group. -/
example : (compile? "(?x) a b # c".toList).isSome = true ∧
    endsInComment "(?x) a b # c".toList = true ∧
    compileAnchored? "(?x) a b # c".toList = none := by
  decide +kernel

/-- The group and what stands before it nest two levels more than the pattern. -/
example : (compile? (List.replicate 249 '(' ++ 'a' :: List.replicate 249 ')')).isSome = true ∧
    compileAnchored? (List.replicate 249 '(' ++ 'a' :: List.replicate 249 ')') = none := by
  decide +kernel

end LearningMap.Strategy
