import LearningMap.Answer.Verdict
import Mathlib.Tactic.ByContra

/-!
# What decides the verdict

The verdict on a submission is told from the question, its stored answers and the text, without the
order in which these are looked at. A submission that carries what its question requires has a text
wherever the text counts, so the check for an empty text decides nothing: such a submission fails
only because no stored answer accepts it. As stored answers are asked whether one of them accepts,
neither their order nor repetitions matter, nor patterns that no text can match.
-/

namespace LearningMap

namespace Strategy

/-- When a stored answer accepts a text. -/
def Accepts (s : Strategy) (text answer : String) : Prop :=
  match s with
  | exact => answer = text
  | contains => ∃ before after, text.toList = before ++ answer.toList ++ after
  | regex => ∃ e, Pattern.compileAnchored? answer.toList = some e ∧ e.search text.toList = true
  | manual => False

theorem patternAccepts_iff {text pattern : String} :
    patternAccepts text pattern = true ↔ regex.Accepts text pattern := by
  rw [patternAccepts, Accepts]
  cases Pattern.compileAnchored? pattern.toList <;> simp

theorem not_accepts_of_mem_invalidPatterns {text a : String} {answers : List String}
    (h : a ∈ invalidPatterns answers) : ¬ regex.Accepts text a := by
  rintro ⟨e, he, -⟩
  simp [invalidPatterns, he] at h

/-- A strategy other than manual decides, and asks whether some stored answer accepts the text. -/
theorem check_eq {s : Strategy} (decides : s ≠ manual) (text : String) (answers : List String) :
    ∃ b, s.check text answers = some b ∧ (b = true ↔ ∃ a ∈ answers, s.Accepts text a) := by
  cases s with
  | exact => exact ⟨_, rfl, by simp [Accepts]⟩
  | contains => exact ⟨_, rfl, by simp only [List.any_eq_true, occursIn_iff, Accepts]⟩
  | regex => exact ⟨_, rfl, by simp only [List.any_eq_true, patternAccepts_iff]⟩
  | manual => exact absurd rfl decides

theorem check_manual (text : String) (answers : List String) : manual.check text answers = none :=
  rfl

theorem check_congr {s : Strategy} {text : String} {answers others : List String}
    (same : (∃ a ∈ answers, s.Accepts text a) ↔ ∃ a ∈ others, s.Accepts text a) :
    s.check text answers = s.check text others := by
  by_cases manual : s = manual
  · rw [manual, check_manual, check_manual]
  · obtain ⟨b, hb, accepted⟩ := check_eq manual text answers
    obtain ⟨c, hc, accepted'⟩ := check_eq manual text others
    rw [hb, hc, Option.some.injEq, Bool.eq_iff_iff, accepted, accepted', same]

end Strategy

namespace QuestionRules

variable {r : QuestionRules} {answer : Option String} {files : Nat} {answers : List String}

/-- The text of a submission is left to the stored answers. -/
structure Keyed (r : QuestionRules) (answers : List String) : Prop where
  text : r.hasType .text = true
  stored : answers ≠ []
  decides : r.strategy ≠ .manual

/-- Some stored answer accepts the text of a submission. -/
def Matched (r : QuestionRules) (answer : Option String) (answers : List String) : Prop :=
  ∃ text ∈ answer, ∃ a ∈ answers, r.strategy.Accepts text a

theorem not_keyed_iff :
    ¬ r.Keyed answers ↔ r.hasType .text = false ∨ answers = [] ∨ r.strategy = .manual := by
  constructor
  · intro h
    by_contra other
    push Not at other
    exact h ⟨by simpa using other.1, other.2.1, other.2.2⟩
  · rintro (typed | stored | manual) keyed
    · exact absurd (typed.symm.trans keyed.text) (by decide)
    · exact keyed.stored stored
    · exact keyed.decides manual

theorem require_eq_ok_iff :
    r.require answer files = .ok () ↔
      (r.hasType .text = true → ∃ text ∈ answer, isBlank text = false) ∧
        (r.hasType .file = true → files ≠ 0) := by
  have carried : answer.all isBlank = false ↔ ∃ text ∈ answer, isBlank text = false := by
    cases answer <;> simp
  rw [← carried, require]
  cases r.hasType .text <;> cases r.hasType .file <;> cases answer.all isBlank <;> simp

theorem isEmpty_eq_false_of_isBlank {text : String} (h : isBlank text = false) :
    text.isEmpty = false := by
  by_contra empty
  rw [Bool.not_eq_false, String.isEmpty_iff] at empty
  simp [empty, isBlank] at h

theorem check_of_bypass (h : r.bypass = true) : r.check answer answers = some true := by
  simp [check, h]

theorem check_of_hasType (bypass : r.bypass = false) (h : r.hasType .text = true) {text : String}
    (filled : text.isEmpty = false) (answers : List String) :
    r.check (some text) answers = if answers = [] then none else r.strategy.check text answers := by
  simp [check, bypass, h, filled]

section Required

variable (ok : r.require answer files = .ok ())
include ok

theorem check_of_not_keyed (bypass : r.bypass = false) (h : ¬ r.Keyed answers) :
    r.check answer answers = none := by
  cases typed : r.hasType .text with
  | false => simp [check, bypass, typed]
  | true =>
    obtain ⟨text, rfl, blank⟩ := (require_eq_ok_iff.mp ok).1 typed
    rw [check_of_hasType bypass typed (isEmpty_eq_false_of_isBlank blank)]
    rcases not_keyed_iff.mp h with untyped | none_stored | manual
    · exact absurd (untyped.symm.trans typed) (by decide)
    · rw [if_pos none_stored]
    · rw [manual, Strategy.check_manual, ite_self]

theorem check_of_keyed (bypass : r.bypass = false) (h : r.Keyed answers) :
    ∃ b, r.check answer answers = some b ∧ (b = true ↔ r.Matched answer answers) := by
  obtain ⟨text, rfl, blank⟩ := (require_eq_ok_iff.mp ok).1 h.text
  rw [check_of_hasType bypass h.text (isEmpty_eq_false_of_isBlank blank), if_neg h.stored]
  simpa [Matched] using Strategy.check_eq h.decides text answers

theorem verdict_eq_success_iff :
    Verdict.ofCorrect (r.check answer answers) = .success ↔
      r.bypass = true ∨ r.Keyed answers ∧ r.Matched answer answers := by
  rw [Verdict.ofCorrect_eq_success]
  cases bypass : r.bypass with
  | true => simp [check_of_bypass bypass]
  | false =>
    by_cases keyed : r.Keyed answers
    · obtain ⟨b, checked, matched⟩ := check_of_keyed ok bypass keyed
      simp [checked, keyed, matched]
    · simp [check_of_not_keyed ok bypass keyed, keyed]

theorem verdict_eq_pending_iff :
    Verdict.ofCorrect (r.check answer answers) = .pending ↔
      r.bypass = false ∧ ¬ r.Keyed answers := by
  rw [Verdict.ofCorrect_eq_pending]
  cases bypass : r.bypass with
  | true => simp [check_of_bypass bypass]
  | false =>
    by_cases keyed : r.Keyed answers
    · obtain ⟨b, checked, -⟩ := check_of_keyed ok bypass keyed
      simp [checked, keyed]
    · simp [check_of_not_keyed ok bypass keyed, keyed]

/-- A submission fails only because it was asked for and refused: its text is there, and not blank. -/
theorem verdict_eq_failed_iff :
    Verdict.ofCorrect (r.check answer answers) = .failed ↔
      r.bypass = false ∧ r.Keyed answers ∧ ∃ text ∈ answer, isBlank text = false ∧
        ∀ a ∈ answers, ¬ r.strategy.Accepts text a := by
  rw [Verdict.ofCorrect_eq_failed]
  constructor
  · intro refused
    have bypass : r.bypass = false := by
      by_contra bypass
      rw [check_of_bypass (by simpa using bypass)] at refused
      cases refused
    have keyed : r.Keyed answers := by
      by_contra unkeyed
      rw [check_of_not_keyed ok bypass unkeyed] at refused
      cases refused
    obtain ⟨b, checked, matched⟩ := check_of_keyed ok bypass keyed
    obtain ⟨text, given, filled⟩ := (require_eq_ok_iff.mp ok).1 keyed.text
    rw [refused, Option.some.injEq] at checked
    refine ⟨bypass, keyed, text, given, filled, fun a ha accepts => ?_⟩
    exact absurd (matched.mpr ⟨text, given, a, ha, accepts⟩) (by simp [← checked])
  · rintro ⟨bypass, keyed, text, given, -, none_accepts⟩
    obtain ⟨b, checked, matched⟩ := check_of_keyed ok bypass keyed
    have unmatched : ¬ r.Matched answer answers := by
      rintro ⟨other, given', a, ha, accepts⟩
      obtain rfl := Option.some.inj (given.symm.trans given')
      exact none_accepts a ha accepts
    rw [checked, Option.some.injEq, ← Bool.not_eq_true, matched]
    exact unmatched

end Required

/-- Other stored answers give the same verdict if there are any just when there were, and one of them
accepts the text just when one did. -/
theorem check_congr {others : List String} (stored : answers = [] ↔ others = [])
    (same : ∀ text, (∃ a ∈ answers, r.strategy.Accepts text a) ↔
      ∃ a ∈ others, r.strategy.Accepts text a) :
    r.check answer answers = r.check answer others := by
  have empty : answers.isEmpty = others.isEmpty := by
    rw [Bool.eq_iff_iff, List.isEmpty_iff, List.isEmpty_iff, stored]
  have asked : ∀ text, r.strategy.check text answers = r.strategy.check text others :=
    fun text => Strategy.check_congr (same text)
  simp only [check, empty, asked]

theorem check_of_same_answers {others : List String} (same : ∀ a, a ∈ others ↔ a ∈ answers) :
    r.check answer others = r.check answer answers := by
  apply check_congr
  · simp only [List.eq_nil_iff_forall_not_mem, same]
  · simp only [same, implies_true]

theorem check_of_kept {kept : List String} (remain : kept ≠ []) (sub : kept ⊆ answers)
    (dropped : ∀ a ∈ answers, a ∈ kept ∨ a ∈ Strategy.invalidPatterns answers)
    (patterns : r.strategy = .regex) : r.check answer kept = r.check answer answers := by
  apply check_congr
  · have stored : answers ≠ [] := fun none_stored => remain (List.subset_nil.mp (none_stored ▸ sub))
    simp [remain, stored]
  · intro text
    rw [patterns]
    constructor
    · rintro ⟨a, ha, accepts⟩
      exact ⟨a, sub ha, accepts⟩
    · rintro ⟨a, ha, accepts⟩
      rcases dropped a ha with ha | invalid
      · exact ⟨a, ha, accepts⟩
      · exact absurd accepts (Strategy.not_accepts_of_mem_invalidPatterns invalid)

section Types

variable {types : List QuestionType} (same : ∀ t, t ∈ types ↔ t ∈ r.types)
include same

theorem hasType_of_same_types (t : QuestionType) :
    ({ r with types } : QuestionRules).hasType t = r.hasType t := by
  simp [hasType, same]

theorem check_of_same_types :
    ({ r with types } : QuestionRules).check answer answers = r.check answer answers := by
  simp only [check, hasType_of_same_types same]

theorem require_of_same_types :
    ({ r with types } : QuestionRules).require answer files = r.require answer files := by
  simp only [require, hasType_of_same_types same]

end Types

/-- The verdict on a submission that carries what its question requires. Success needs a bypass or a
stored answer that accepts the text. An answer waits when there is nothing to ask, and fails when all
that can be asked refuse it. Order and repetition of stored answers and types do not matter, nor
patterns that are not valid as long as another one remains. -/
theorem verdict_of_require (ok : r.require answer files = .ok ()) (answers : List String) :
    (Verdict.ofCorrect (r.check answer answers) = .success ↔
      r.bypass = true ∨ r.Keyed answers ∧ r.Matched answer answers) ∧
    (Verdict.ofCorrect (r.check answer answers) = .pending ↔
      r.bypass = false ∧ (r.hasType .text = false ∨ answers = [] ∨ r.strategy = .manual)) ∧
    (Verdict.ofCorrect (r.check answer answers) = .failed ↔
      r.bypass = false ∧ r.Keyed answers ∧ ∃ text ∈ answer, isBlank text = false ∧
        ∀ a ∈ answers, ¬ r.strategy.Accepts text a) ∧
    (∀ others, (∀ a, a ∈ others ↔ a ∈ answers) →
      r.check answer others = r.check answer answers) ∧
    (∀ types, (∀ t, t ∈ types ↔ t ∈ r.types) →
      ({ r with types } : QuestionRules).require answer files = .ok () ∧
        ({ r with types } : QuestionRules).check answer answers = r.check answer answers) ∧
    (∀ kept, kept ≠ [] → kept ⊆ answers →
      (∀ a ∈ answers, a ∈ kept ∨ a ∈ Strategy.invalidPatterns answers) → r.strategy = .regex →
      r.check answer kept = r.check answer answers) := by
  refine ⟨verdict_eq_success_iff ok, ?_, verdict_eq_failed_iff ok, ?_, ?_, ?_⟩
  · rw [verdict_eq_pending_iff ok, not_keyed_iff]
  · exact fun others same => check_of_same_answers same
  · exact fun types same => ⟨(require_of_same_types same).trans ok, check_of_same_types same⟩
  · exact fun kept remain sub dropped patterns => check_of_kept remain sub dropped patterns

/-- A text and a file for a question with two patterns, of which the first one is not valid. -/
theorem verdict_of_require_for_patterns :
    (⟨false, [.file, .text], .regex⟩ : QuestionRules).require (some "42a") 1 = .ok () ∧
      Verdict.ofCorrect ((⟨false, [.file, .text], .regex⟩ : QuestionRules).check (some "42a")
        ["([0-9", "[0-9]"]) = .success ∧
      (⟨false, [.file, .text], .regex⟩ : QuestionRules).check (some "42a") ["[0-9]"] =
        (⟨false, [.file, .text], .regex⟩ : QuestionRules).check (some "42a") ["([0-9", "[0-9]"] := by
  have ok : (⟨false, [.file, .text], .regex⟩ : QuestionRules).require (some "42a") 1 = .ok () :=
    require_eq_ok_iff.mpr ⟨fun _ => ⟨"42a", rfl, by decide +kernel⟩, by simp⟩
  have invalid : "([0-9" ∈ Strategy.invalidPatterns ["([0-9", "[0-9]"] := by decide +kernel
  have accepts : Strategy.regex.Accepts "42a" "[0-9]" :=
    Strategy.patternAccepts_iff.mp (by decide +kernel)
  obtain ⟨success, -, -, -, -, without⟩ := verdict_of_require ok ["([0-9", "[0-9]"]
  refine ⟨ok, success.mpr (.inr ⟨⟨rfl, by simp, by simp⟩, ?_⟩), without _ (by simp) (by simp) ?_ rfl⟩
  · exact ⟨"42a", rfl, "[0-9]", by simp, accepts⟩
  · simp [invalid]

end QuestionRules

end LearningMap
