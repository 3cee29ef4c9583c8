import LearningMap.Pattern.Marked
import LearningMap.Pattern.Parser

/-!
# How a text is checked against stored answers

The result of a check is true, false, or none for an answer that waits for a review.
-/

namespace LearningMap

inductive QuestionType where
  | text
  | file
  deriving DecidableEq

/-- How a submitted text is checked against the stored answers. -/
inductive Strategy where
  | exact
  | contains
  /-- One of them, as a pattern, matches at its start. -/
  | regex
  | manual
  deriving DecidableEq

namespace QuestionType

def name : QuestionType → String
  | text => "text"
  | file => "file"

def ofName? : String → Option QuestionType
  | "text" => some text
  | "file" => some file
  | _ => none

def ofName (s : String) : Except String QuestionType :=
  match ofName? s with
  | some t => .ok t
  | none => .error s!"Invalid question type '{s}'. Must be one of: text, file"

@[simp] theorem ofName?_name (t : QuestionType) : ofName? t.name = some t := by
  cases t <;> rfl

end QuestionType

namespace Strategy

def name : Strategy → String
  | exact => "text_exact"
  | contains => "text_contains"
  | regex => "regex"
  | manual => "manual"

def ofName? : String → Option Strategy
  | "text_exact" => some exact
  | "text_contains" => some contains
  | "regex" => some regex
  | "manual" => some manual
  | _ => none

def ofName (s : String) : Except String Strategy :=
  match ofName? s with
  | some t => .ok t
  | none => .error (s!"Invalid answer validation type '{s}'. Must be one of: " ++
      "text_exact, text_contains, regex, manual")

@[simp] theorem ofName?_name (s : Strategy) : ofName? s.name = some s := by
  cases s <;> rfl

def occursIn (piece : List Char) : List Char → Bool
  | [] => piece.isEmpty
  | c :: cs => piece.isPrefixOf (c :: cs) || occursIn piece cs

theorem occursIn_iff {piece text : List Char} :
    occursIn piece text = true ↔ ∃ before after, text = before ++ piece ++ after := by
  induction text with
  | nil => simp [occursIn]
  | cons c cs ih =>
    simp only [occursIn, Bool.or_eq_true, List.isPrefixOf_iff_prefix, ih]
    constructor
    · rintro (⟨after, h⟩ | ⟨before, after, h⟩)
      · exact ⟨[], after, by simp [h]⟩
      · exact ⟨c :: before, after, by simp [h]⟩
    · rintro ⟨before, after, h⟩
      cases before with
      | nil => exact .inl ⟨after, by simpa using h.symm⟩
      | cons b before =>
        simp only [List.cons_append, List.cons.injEq] at h
        exact .inr ⟨before, after, h.2⟩

def patternAccepts (submitted pattern : String) : Bool :=
  match Pattern.compileAnchored? pattern.toList with
  | some e => e.search submitted.toList
  | none => false

/-- Checks a text against stored answers, of which one has to accept it. -/
def check (s : Strategy) (submitted : String) (answers : List String) : Option Bool :=
  match s with
  | exact => some (answers.contains submitted)
  | contains => some (answers.any fun a => occursIn a.toList submitted.toList)
  | regex => some (answers.any (patternAccepts submitted))
  | manual => none

def invalidPatterns (answers : List String) : List String :=
  answers.filter fun a => (Pattern.compileAnchored? a.toList).isNone

end Strategy

end LearningMap
