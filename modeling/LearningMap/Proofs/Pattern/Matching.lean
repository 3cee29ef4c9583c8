import LearningMap.Pattern.Marked
import Mathlib.Data.List.Basic
import Mathlib.Tactic.Tauto

/-!
# What an expression matches

The pieces of a text that an expression matches, and the search by marks, which finds one exactly if
there is one. A mark stands for a piece that is being matched: `Marked.Resumes` tells where such a
piece may end. One more character moves the marks on to the pieces that it does not end, and to those
that start with it.
-/

namespace LearningMap.Pattern

def placeAt (text : List Char) : Nat → Place
  | 0 => ⟨none, text[0]?⟩
  | i + 1 => ⟨text[i]?, text[i + 1]?⟩

/-- So many pieces in a row, each between two offsets that are related. -/
def Turns (R : Nat → Nat → Prop) : Nat → Nat → Nat → Prop
  | 0, i, j => j = i
  | n + 1, i, k => ∃ j, R i j ∧ Turns R n j k

/-- An expression matches the piece of a text between two offsets. A repetition that is to have more
turns at least than it may have at most has just as many as that. -/
def Expr.Matches (text : List Char) : Expr → Nat → Nat → Prop
  | empty, i, j => j = i
  | chars set, i, j => j = i + 1 ∧ ∃ c, text[i]? = some c ∧ set.contains c = true
  | look l, i, j => j = i ∧ l.holds (placeAt text i) = true
  | seq e f, i, k => ∃ j, e.Matches text i j ∧ f.Matches text j k
  | alt e f, i, j => e.Matches text i j ∨ f.Matches text i j
  | rep least most e, i, j =>
    ∃ n, least ≤ n ∧ (∀ m ∈ most, n ≤ max least m) ∧ Turns (e.Matches text) n i j

section Turns

variable {R : Nat → Nat → Prop}

theorem turns_one {i j : Nat} : Turns R 1 i j ↔ R i j := by
  simp [Turns]

theorem turns_add {m n i k : Nat} : Turns R (m + n) i k ↔ ∃ j, Turns R m i j ∧ Turns R n j k := by
  induction m generalizing i with
  | zero => simp [Turns]
  | succ m ih =>
    rw [Nat.succ_add]
    simp only [Turns, ih]
    tauto

theorem turns_optional {n i j : Nat} :
    Turns (fun i j => j = i ∨ R i j) n i j ↔ ∃ m ≤ n, Turns R m i j := by
  induction n generalizing i with
  | zero => simp [Turns]
  | succ n ih =>
    simp only [Turns, ih]
    constructor
    · rintro ⟨k, rfl | first, m, le, rest⟩
      · exact ⟨m, by omega, rest⟩
      · exact ⟨m + 1, by omega, k, first, rest⟩
    · rintro ⟨m, le, rest⟩
      cases m with
      | zero => exact ⟨i, .inl rfl, 0, by omega, rest⟩
      | succ m =>
        obtain ⟨k, first, rest⟩ := rest
        exact ⟨k, .inr first, m, by omega, rest⟩

/-- Offsets that are related do not go back, nor past the end. -/
def Forward (length : Nat) (R : Nat → Nat → Prop) : Prop :=
  ∀ i j, R i j → i ≤ j ∧ (i ≤ length → j ≤ length)

theorem Forward.turns {length : Nat} (h : Forward length R) (n : Nat) :
    Forward length (Turns R n) := by
  induction n with
  | zero =>
    rintro i j rfl
    exact ⟨Nat.le_refl _, id⟩
  | succ n ih =>
    rintro i k ⟨j, first, rest⟩
    have := h i j first
    have := ih j k rest
    omega

/-- Turns that go on have a first one that goes on. -/
theorem Forward.exists_first {length : Nat} (h : Forward length R) {n i k : Nat}
    (turns : Turns R n i k) (on : i < k) : ∃ j m, i < j ∧ R i j ∧ Turns R m j k := by
  induction n with
  | zero => exact absurd turns (by simp only [Turns]; omega)
  | succ n ih =>
    obtain ⟨j, first, rest⟩ := turns
    rcases Nat.lt_or_eq_of_le (h i j first).1 with lt | rfl
    · exact ⟨j, n, lt, first, rest⟩
    · exact ih rest

end Turns

namespace Marked

variable {text : List Char}

/-- A marked expression matches the pieces that it matches without its marks. -/
def Matches (text : List Char) : Marked → Nat → Nat → Prop
  | empty, i, j => j = i
  | chars set _, i, j => j = i + 1 ∧ ∃ c, text[i]? = some c ∧ set.contains c = true
  | look l, i, j => j = i ∧ l.holds (placeAt text i) = true
  | seq _ e f, i, k => ∃ j, e.Matches text i j ∧ f.Matches text j k
  | alt _ e f, i, j => e.Matches text i j ∨ f.Matches text i j
  | star _ e, i, j => ∃ n, Turns (e.Matches text) n i j

/-- A piece that is being matched at an offset may end at another one. -/
def Resumes (text : List Char) : Marked → Nat → Nat → Prop
  | empty, _, _ | look _, _, _ => False
  | chars _ mark, i, j => mark = true ∧ j = i
  | seq _ e f, i, k => (∃ j, e.Resumes text i j ∧ f.Matches text j k) ∨ f.Resumes text i k
  | alt _ e f, i, j => e.Resumes text i j ∨ f.Resumes text i j
  | star _ e, i, k => ∃ j, e.Resumes text i j ∧ ∃ n, Turns (e.Matches text) n j k

/-- Larger parts tell rightly whether there are marks in them. -/
def Truthful : Marked → Prop
  | seq live e f | alt live e f => live = (e.live || f.live) ∧ e.Truthful ∧ f.Truthful
  | star live e => live = e.live ∧ e.Truthful
  | _ => True

theorem forward_matches (m : Marked) : Forward text.length (m.Matches text) := by
  induction m with
  | empty =>
    rintro i j rfl
    exact ⟨Nat.le_refl _, id⟩
  | look l =>
    rintro i j ⟨rfl, -⟩
    exact ⟨Nat.le_refl _, id⟩
  | chars set mark =>
    rintro i j ⟨rfl, c, here, -⟩
    have := (List.getElem?_eq_some_iff.mp here).1
    omega
  | seq live e f ihe ihf =>
    rintro i k ⟨j, first, second⟩
    have := ihe i j first
    have := ihf j k second
    omega
  | alt live e f ihe ihf => exact fun i j h => h.elim (ihe i j) (ihf i j)
  | star live e ih => exact fun i j ⟨n, turns⟩ => ih.turns n i j turns

theorem forward_resumes (m : Marked) : Forward text.length (m.Resumes text) := by
  induction m with
  | empty | look l => exact fun i j h => h.elim
  | chars set mark =>
    rintro i j ⟨-, rfl⟩
    exact ⟨Nat.le_refl _, id⟩
  | seq live e f ihe ihf =>
    rintro i k (⟨j, first, second⟩ | second)
    · have := ihe i j first
      have := f.forward_matches j k second
      omega
    · exact ihf i k second
  | alt live e f ihe ihf => exact fun i j h => h.elim (ihe i j) (ihf i j)
  | star live e ih =>
    rintro i k ⟨j, first, n, turns⟩
    have := ih i j first
    have := e.forward_matches.turns n j k turns
    omega

theorem live_of_resumes {m : Marked} (truthful : m.Truthful) {i j : Nat}
    (resumes : m.Resumes text i j) : m.live = true := by
  induction m generalizing i j with
  | empty | look l => exact resumes.elim
  | chars set mark => exact resumes.1
  | seq live e f ihe ihf =>
    obtain ⟨rfl, he, hf⟩ := truthful
    rcases resumes with ⟨k, first, -⟩ | second
    · exact (Bool.or_eq_true _ _).mpr (.inl (ihe he first))
    · exact (Bool.or_eq_true _ _).mpr (.inr (ihf hf second))
  | alt live e f ihe ihf =>
    obtain ⟨rfl, he, hf⟩ := truthful
    rcases resumes with first | second
    · exact (Bool.or_eq_true _ _).mpr (.inl (ihe he first))
    · exact (Bool.or_eq_true _ _).mpr (.inr (ihf hf second))
  | star live e ih =>
    obtain ⟨rfl, he⟩ := truthful
    obtain ⟨k, first, -⟩ := resumes
    exact ih he first

theorem nullable_iff (m : Marked) (i : Nat) :
    m.nullable (placeAt text i) = true ↔ m.Matches text i i := by
  induction m generalizing i with
  | empty | look l => simp [nullable, Matches]
  | chars set mark => simp [nullable, Matches]
  | seq live e f ihe ihf =>
    rw [nullable, Bool.and_eq_true, ihe, ihf]
    refine ⟨fun h => ⟨i, h⟩, fun ⟨j, first, second⟩ => ?_⟩
    obtain rfl : j = i := by
      have := (e.forward_matches i j first).1
      have := (f.forward_matches j i second).1
      omega
    exact ⟨first, second⟩
  | alt live e f ihe ihf => rw [nullable, Bool.or_eq_true, ihe, ihf, Matches]
  | star live e ih => exact iff_of_true rfl ⟨0, rfl⟩

theorem ends_iff {m : Marked} (truthful : m.Truthful) (i : Nat) :
    m.ends (placeAt text i) = true ↔ m.Resumes text i i := by
  induction m generalizing i with
  | empty | look l => simp [ends, Resumes]
  | chars set mark => simp [ends, Resumes]
  | seq live e f ihe ihf =>
    have lives : (seq live e f).Resumes text i i → live = true := live_of_resumes truthful
    obtain ⟨-, he, hf⟩ := truthful
    rw [ends, Bool.and_eq_true, Bool.or_eq_true, Bool.and_eq_true, ihe he, ihf hf, nullable_iff]
    refine ⟨fun h => h.2.imp_left fun h => ⟨i, h⟩, fun h => ⟨lives h, h.imp_left ?_⟩⟩
    rintro ⟨k, first, second⟩
    obtain rfl : k = i := by
      have := (e.forward_resumes i k first).1
      have := (f.forward_matches k i second).1
      omega
    exact ⟨first, second⟩
  | alt live e f ihe ihf =>
    have lives : (alt live e f).Resumes text i i → live = true := live_of_resumes truthful
    obtain ⟨-, he, hf⟩ := truthful
    rw [ends, Bool.and_eq_true, Bool.or_eq_true, ihe he, ihf hf]
    exact ⟨And.right, fun h => ⟨lives h, h⟩⟩
  | star live e ih =>
    have lives : (star live e).Resumes text i i → live = true := live_of_resumes truthful
    obtain ⟨-, he⟩ := truthful
    rw [ends, Bool.and_eq_true, ih he]
    refine ⟨fun h => ⟨i, h.2, 0, rfl⟩, fun h => ⟨lives h, ?_⟩⟩
    obtain ⟨k, first, n, turns⟩ := h
    obtain rfl : k = i := by
      have := (e.forward_resumes i k first).1
      have := (e.forward_matches.turns n k i turns).1
      omega
    exact first

theorem truthful_both {e f : Marked} (he : e.Truthful) (hf : f.Truthful) :
    (both e f).Truthful := ⟨rfl, he, hf⟩

theorem truthful_either {e f : Marked} (he : e.Truthful) (hf : f.Truthful) :
    (either e f).Truthful := ⟨rfl, he, hf⟩

theorem truthful_turns {e : Marked} (he : e.Truthful) : (turns e).Truthful := ⟨rfl, he⟩

theorem truthful_step {m : Marked} (truthful : m.Truthful) (p : Place) (c : Char) (enter : Bool) :
    (m.step p c enter).Truthful := by
  induction m generalizing enter with
  | empty | look l | chars set mark => trivial
  | seq live e f ihe ihf =>
    rw [step]
    split
    · exact truthful_both (ihe truthful.2.1 _) (ihf truthful.2.2 _)
    · exact truthful
  | alt live e f ihe ihf =>
    rw [step]
    split
    · exact truthful_either (ihe truthful.2.1 _) (ihf truthful.2.2 _)
    · exact truthful
  | star live e ih =>
    rw [step]
    split
    · exact truthful_turns (ih truthful.2 _)
    · exact truthful

@[simp] theorem matches_step (m : Marked) (p : Place) (c : Char) (enter : Bool) :
    (m.step p c enter).Matches text = m.Matches text := by
  induction m generalizing enter with
  | empty | look l | chars set mark => rfl
  | seq live e f ihe ihf =>
    rw [step]
    split
    · simp only [both, Matches, ihe, ihf]
    · rfl
  | alt live e f ihe ihf =>
    rw [step]
    split
    · simp only [either, Matches, ihe, ihf]
    · rfl
  | star live e ih =>
    rw [step]
    split
    · simp only [turns, Matches, ih]
    · rfl

theorem resumes_idle {m : Marked} (truthful : m.Truthful) {enter : Bool}
    (idle : ¬ (enter || m.live) = true) (i k : Nat) :
    m.Resumes text (i + 1) k ↔
      i < k ∧ (enter = true ∧ m.Matches text i k ∨ m.Resumes text i k) := by
  have still : m.live ≠ true := fun live => idle (by simp [live])
  have entered : enter ≠ true := fun entered => idle (by simp [entered])
  have none_resumes (j : Nat) : ¬ m.Resumes text j k := fun resumes =>
    still (live_of_resumes truthful resumes)
  simp [none_resumes, entered]

/-- After one more character those pieces are being matched that go on with it: pieces that were
being matched already, and those that start before it, where they may. -/
theorem resumes_step {m : Marked} (truthful : m.Truthful) {i : Nat} {c : Char}
    (here : text[i]? = some c) (enter : Bool) (k : Nat) :
    (m.step (placeAt text i) c enter).Resumes text (i + 1) k ↔
      i < k ∧ (enter = true ∧ m.Matches text i k ∨ m.Resumes text i k) := by
  induction m generalizing enter k with
  | empty =>
    refine ⟨False.elim, ?_⟩
    rintro ⟨lt, ⟨-, rfl⟩ | resumes⟩
    · omega
    · exact resumes
  | look l =>
    refine ⟨False.elim, ?_⟩
    rintro ⟨lt, ⟨-, rfl, -⟩ | resumes⟩
    · omega
    · exact resumes
  | chars set mark =>
    simp only [step, Resumes, Matches, here, Option.some.injEq, exists_eq_left', Bool.and_eq_true]
    constructor
    · rintro ⟨⟨entered, has⟩, rfl⟩
      exact ⟨by omega, .inl ⟨entered, rfl, has⟩⟩
    · rintro ⟨lt, ⟨entered, rfl, has⟩ | ⟨-, rfl⟩⟩
      · exact ⟨⟨entered, has⟩, rfl⟩
      · omega
  | seq live e f ihe ihf =>
    rw [step]
    split
    case isFalse idle => exact resumes_idle truthful idle i k
    obtain ⟨-, he, hf⟩ := truthful
    simp only [both, Resumes, Matches, matches_step, ihe he, ihf hf, Bool.or_eq_true,
      Bool.and_eq_true, nullable_iff, ends_iff he]
    constructor
    · rintro (⟨j, ⟨lt, first⟩, second⟩ | ⟨lt, ⟨first, second⟩ | second⟩)
      · have := (f.forward_matches j k second).1
        exact ⟨by omega, first.imp (fun h => ⟨h.1, j, h.2, second⟩) fun h => .inl ⟨j, h, second⟩⟩
      · exact ⟨lt, first.imp (fun h => ⟨h.1, i, h.2, second⟩) fun h => .inl ⟨i, h, second⟩⟩
      · exact ⟨lt, .inr (.inr second)⟩
    · -- The first part may have ended here, or go on.
      have pieces (lt : i < k) {j : Nat}
          (first : enter = true ∧ e.Matches text i j ∨ e.Resumes text i j)
          (second : f.Matches text j k) (le : i ≤ j) :
          (∃ j, (i < j ∧ (enter = true ∧ e.Matches text i j ∨ e.Resumes text i j)) ∧
            f.Matches text j k) ∨
          i < k ∧ ((enter = true ∧ e.Matches text i i ∨ e.Resumes text i i) ∧ f.Matches text i k ∨
            f.Resumes text i k) := by
        rcases Nat.lt_or_eq_of_le le with on | rfl
        · exact .inl ⟨j, ⟨on, first⟩, second⟩
        · exact .inr ⟨lt, .inl ⟨first, second⟩⟩
      rintro ⟨lt, ⟨entered, j, first, second⟩ | ⟨j, first, second⟩ | second⟩
      · exact pieces lt (.inl ⟨entered, first⟩) second (e.forward_matches i j first).1
      · exact pieces lt (.inr first) second (e.forward_resumes i j first).1
      · exact .inr ⟨lt, .inr second⟩
  | alt live e f ihe ihf =>
    rw [step]
    split
    case isFalse idle => exact resumes_idle truthful idle i k
    obtain ⟨-, he, hf⟩ := truthful
    simp only [either, Resumes, Matches, ihe he, ihf hf]
    tauto
  | star live e ih =>
    rw [step]
    split
    case isFalse idle => exact resumes_idle truthful idle i k
    obtain ⟨-, he⟩ := truthful
    simp only [turns, Resumes, Matches, matches_step, ih he, Bool.or_eq_true, ends_iff he]
    constructor
    · rintro ⟨j, ⟨lt, ⟨entered | ended, first⟩ | first⟩, n, rest⟩
      all_goals have := (e.forward_matches.turns n j k rest).1
      · exact ⟨by omega, .inl ⟨entered, n + 1, j, first, rest⟩⟩
      · exact ⟨by omega, .inr ⟨i, ended, n + 1, j, first, rest⟩⟩
      · exact ⟨by omega, .inr ⟨j, first, n, rest⟩⟩
    · rintro ⟨lt, ⟨entered, n, turns⟩ | ⟨j, first, n, rest⟩⟩
      · -- The character belongs to the first turn that is not empty.
        obtain ⟨j, m, on, first, rest⟩ := e.forward_matches.exists_first turns lt
        exact ⟨j, ⟨on, .inl ⟨.inl entered, first⟩⟩, m, rest⟩
      · rcases Nat.lt_or_eq_of_le (e.forward_resumes i j first).1 with on | rfl
        · exact ⟨j, ⟨on, .inr first⟩, n, rest⟩
        · obtain ⟨j, m, on, next, rest⟩ := e.forward_matches.exists_first rest lt
          exact ⟨j, ⟨on, .inl ⟨.inr first, next⟩⟩, m, rest⟩

theorem place_eq (text : List Char) (i : Nat) :
    (⟨(placeAt text i).before, text[i]?⟩ : Place) = placeAt text i := by
  cases i <;> rfl

theorem search_iff {m : Marked} (truthful : m.Truthful) {i : Nat} (le : i ≤ text.length) :
    m.search (placeAt text i).before (text.drop i) = true ↔
      (∃ k, m.Resumes text i k) ∨ ∃ j k, i ≤ j ∧ j ≤ text.length ∧ m.Matches text j k := by
  induction ahead : text.drop i generalizing m i with
  | nil =>
    have last : i = text.length := by
      have := List.drop_eq_nil_iff.mp ahead
      omega
    have after : text[i]? = none := List.getElem?_eq_none (Nat.le_of_eq last.symm)
    rw [search, ← after, place_eq, Bool.or_eq_true, ends_iff truthful, nullable_iff]
    constructor
    · exact Or.imp (fun h => ⟨i, h⟩) fun h => ⟨i, i, Nat.le_refl i, le, h⟩
    · rintro (⟨k, h⟩ | ⟨j, k, le_j, j_le, h⟩)
      · obtain rfl : i = k := by
          have := m.forward_resumes i k h
          omega
        exact .inl h
      · obtain rfl : i = j := by omega
        obtain rfl : i = k := by
          have := m.forward_matches i k h
          omega
        exact .inr h
  | cons c cs ih =>
    have lt : i < text.length := by
      by_contra past
      simp [List.drop_eq_nil_of_le (Nat.le_of_not_lt past)] at ahead
    have here : text[i]? = some c := by
      rw [← List.head?_drop, ahead, List.head?_cons]
    have rest : text.drop (i + 1) = cs := by
      rw [← List.drop_drop, ahead, List.drop_succ_cons, List.drop_zero]
    have next := ih (truthful_step truthful (placeAt text i) c true) lt rest
    have before : (placeAt text (i + 1)).before = some c := here
    simp only [before, matches_step, resumes_step truthful here, true_and] at next
    rw [search, ← here, place_eq, here, Bool.or_eq_true, Bool.or_eq_true, ends_iff truthful,
      nullable_iff, next]
    constructor
    · rintro ((h | h) | ⟨k, -, h | h⟩ | ⟨j, k, le_j, j_le, h⟩)
      · exact .inl ⟨i, h⟩
      · exact .inr ⟨i, i, Nat.le_refl i, le, h⟩
      · exact .inr ⟨i, k, Nat.le_refl i, le, h⟩
      · exact .inl ⟨k, h⟩
      · exact .inr ⟨j, k, by omega, j_le, h⟩
    · -- A piece that starts here is found here if it is empty, and by its first character if not.
      rintro (⟨k, h⟩ | ⟨j, k, le_j, j_le, h⟩)
      · rcases Nat.lt_or_eq_of_le (m.forward_resumes i k h).1 with on | rfl
        · exact .inr (.inl ⟨k, on, .inr h⟩)
        · exact .inl (.inl h)
      · rcases Nat.lt_or_eq_of_le le_j with later | rfl
        · exact .inr (.inr ⟨j, k, later, j_le, h⟩)
        · rcases Nat.lt_or_eq_of_le (m.forward_matches i k h).1 with on | rfl
          · exact .inr (.inl ⟨k, on, .inl h⟩)
          · exact .inl (.inr h)

theorem matches_times (m : Marked) (n : Nat) :
    (m.times n).Matches text = Turns (m.Matches text) n := by
  fun_induction m.times n with
  | case1 => rfl
  | case2 =>
    funext i j
    rw [turns_one]
  | case3 n _ _ half even isEven ih =>
    have halves : n = n / 2 + n / 2 := by omega
    funext i k
    rw [halves, turns_add]
    simp only [even, both, Matches, half, ih]
  | case4 n _ _ half even isOdd ih =>
    have halves : n = n / 2 + n / 2 + 1 := by omega
    funext i k
    rw [halves, turns_add]
    simp only [even, both, Matches, half, ih, turns_add, turns_one]

theorem truthful_times {m : Marked} (truthful : m.Truthful) (n : Nat) : (m.times n).Truthful := by
  fun_induction m.times n with
  | case1 => trivial
  | case2 => exact truthful
  | case3 n _ _ half even isEven ih => exact truthful_both ih ih
  | case4 n _ _ half even isOdd ih => exact truthful_both (truthful_both ih ih) truthful

theorem live_both (e f : Marked) : (both e f).live = (e.live || f.live) := rfl

theorem live_either (e f : Marked) : (either e f).live = (e.live || f.live) := rfl

theorem live_times {m : Marked} (still : m.live = false) (n : Nat) : (m.times n).live = false := by
  fun_induction m.times n with
  | case1 => rfl
  | case2 => exact still
  | case3 n _ _ half even isEven ih => rw [live_both, ih, Bool.or_self]
  | case4 n _ _ half even isOdd ih => rw [live_both, live_both, ih, still, Bool.or_self, Bool.or_self]

end Marked

namespace Expr

open Marked

theorem matches_unmarked (e : Expr) (text : List Char) :
    e.unmarked.Matches text = e.Matches text := by
  induction e with
  | empty | look l | chars set => rfl
  | seq e f ihe ihf => simp only [unmarked, both, Marked.Matches, Matches, ihe, ihf]
  | alt e f ihe ihf => simp only [unmarked, either, Marked.Matches, Matches, ihe, ihf]
  | rep least most e ih =>
    funext i k
    refine propext ?_
    cases most with
    | none =>
      simp only [unmarked, both, turns, Marked.Matches, Matches, matches_times, ih]
      constructor
      · rintro ⟨j, first, n, rest⟩
        exact ⟨least + n, by omega, by simp, turns_add.mpr ⟨j, first, rest⟩⟩
      · rintro ⟨n, le, -, turns⟩
        obtain ⟨n, rfl⟩ := Nat.exists_eq_add_of_le le
        obtain ⟨j, first, rest⟩ := turns_add.mp turns
        exact ⟨j, first, n, rest⟩
    | some most =>
      have optional : (either .empty e.unmarked).Matches text =
          fun i j => j = i ∨ e.Matches text i j := by
        simp only [either, Marked.Matches, ih]
      simp only [unmarked, both, Marked.Matches, Matches, matches_times, ih, optional,
        turns_optional]
      constructor
      · rintro ⟨j, first, n, le, rest⟩
        refine ⟨least + n, by omega, ?_, turns_add.mpr ⟨j, first, rest⟩⟩
        simp only [Option.mem_some_iff, forall_eq']
        omega
      · rintro ⟨n, le, le_most, turns⟩
        have := le_most most rfl
        obtain ⟨n, rfl⟩ := Nat.exists_eq_add_of_le le
        obtain ⟨j, first, rest⟩ := turns_add.mp turns
        exact ⟨j, first, n, by omega, rest⟩

theorem truthful_unmarked (e : Expr) : e.unmarked.Truthful := by
  induction e with
  | empty | look l | chars set => trivial
  | seq e f ihe ihf => exact truthful_both ihe ihf
  | alt e f ihe ihf => exact truthful_either ihe ihf
  | rep least most e ih =>
    cases most with
    | none => exact truthful_both (truthful_times ih least) (truthful_turns ih)
    | some most =>
      exact truthful_both (truthful_times ih least)
        (truthful_times (truthful_either (e := .empty) trivial ih) (most - least))

theorem live_unmarked (e : Expr) : e.unmarked.live = false := by
  induction e with
  | empty | look l | chars set => rfl
  | seq e f ihe ihf => rw [unmarked, live_both, ihe, ihf, Bool.or_self]
  | alt e f ihe ihf => rw [unmarked, live_either, ihe, ihf, Bool.or_self]
  | rep least most e ih =>
    cases most with
    | none =>
      rw [unmarked, live_both, live_times ih, Bool.false_or]
      exact ih
    | some most =>
      have option_still : (either .empty e.unmarked).live = false := by
        rw [live_either, ih, Bool.or_false]
        rfl
      rw [unmarked, live_both, live_times ih, live_times option_still, Bool.or_self]

/-- A search finds a piece exactly if there is one. -/
theorem search_iff (e : Expr) (text : List Char) :
    e.search text = true ↔ ∃ i j, i ≤ text.length ∧ e.Matches text i j := by
  have found : e.search text = true ↔ _ :=
    Marked.search_iff (i := 0) (truthful_unmarked e) (Nat.zero_le text.length)
  rw [matches_unmarked] at found
  have none_resumes (k : Nat) : ¬ e.unmarked.Resumes text 0 k := fun resumes => by
    simpa [live_unmarked] using live_of_resumes (truthful_unmarked e) resumes
  simpa [none_resumes] using found

/-- An expression after the sign for the start of the text matches only there. -/
theorem search_textStart_iff (e : Expr) (text : List Char) :
    (seq (look .textStart) e).search text = true ↔ ∃ j, e.Matches text 0 j := by
  rw [search_iff]
  constructor
  · rintro ⟨i, k, le, j, ⟨rfl, start⟩, piece⟩
    cases j with
    | zero => exact ⟨k, piece⟩
    | succ j =>
      have : j < text.length := le
      simp [Look.holds, placeAt, this] at start
  · rintro ⟨k, piece⟩
    exact ⟨0, k, Nat.zero_le _, 0, ⟨rfl, rfl⟩, piece⟩

end Expr

end LearningMap.Pattern
