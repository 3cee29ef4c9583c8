import LearningMap.Json.Record
import LearningMap.Proofs.Json.Number

/-!
# What is written is read back

The scanner takes the characters of a value one by one. When it has taken all of them it stands
behind the value, in the list or object that it was in before (`Plain.takesChars`). This goes by
induction on the value: a text or a bracket ends a value by itself, a number only once the next
character or the end of the text comes. So a value whose numbers are read exactly is read back from
its text (`Plain.ofSymbols_chars`).
-/

namespace LearningMap.Json

/-- A value whose numbers are whole ones of a word. -/
inductive Plain : Json → Prop
  | null : Plain .null
  | bool (b : Bool) : Plain (.bool b)
  | whole {n : Int} (word : IsWord n) : Plain (.num (.whole n))
  | str (s : String) : Plain (.str s)
  | arr {items : List Json} (plain : ∀ j ∈ items, Plain j) : Plain (.arr items)
  | obj {members : List (String × Json)} (plain : ∀ m ∈ members, Plain m.2) : Plain (.obj members)

namespace Scanner

def takes (s : Scanner) (cs : List Char) : Option Scanner := cs.foldlM feedChar s

variable {s t u : Scanner}

@[simp] theorem takes_nil (s : Scanner) : s.takes [] = some s := rfl

theorem takes_cons (s : Scanner) (c : Char) (cs : List Char) :
    s.takes (c :: cs) = (s.feedChar c).bind (·.takes cs) := rfl

theorem takes_append (s : Scanner) (cs ds : List Char) :
    s.takes (cs ++ ds) = (s.takes cs).bind (·.takes ds) := by
  simp only [takes, List.foldlM_append]
  rfl

theorem run_of_takes {cs : List Char} (taken : s.takes cs = some t) :
    s.run (cs.map some) = t.finish := by
  induction cs generalizing s with
  | nil => rw [Option.some.inj taken]; rfl
  | cons c cs ih =>
    obtain ⟨u, next, others⟩ := Option.bind_eq_some_iff.mp taken
    rw [List.map_cons, run]
    simp only [feed, next, ih others]

/-- A scanner between two tokens where a value may come: in a list, behind a name, or at the
start. -/
structure Awaits (s : Scanner) : Prop where
  mode : s.mode = .between
  wants : s.wantsValue = true
  named : ∀ ms fs, s.frames ≠ .obj ms none :: fs

/-- Where a value is put depends only on the frames and the result so far. -/
theorem place_congr (named : ∀ ms fs, s.frames ≠ .obj ms none :: fs) (frames : t.frames = s.frames)
    (result : t.result = s.result) (d : Draft) : t.place d = s.place d := by
  obtain ⟨_, fs, _, r⟩ := s
  obtain ⟨_, _, _, _⟩ := t
  subst frames result
  unfold place
  dsimp only
  split
  · rfl
  · rfl
  · rfl
  · exact absurd rfl (named _ _)

@[simp] theorem mode_place (s : Scanner) (d : Draft) : (s.place d).mode = .between := by
  unfold place
  split <;> rfl

/-- A scanner that has taken the last character of a value goes on as if the value had been placed,
with a comma, with a bracket or with the end of the text. -/
structure Completes (t u : Scanner) : Prop where
  feed : ∀ c, c = ',' ∨ c = ']' ∨ c = '\x7d' → t.feedChar c = u.feedBetween c
  settle : t.settle = u

theorem Completes.refl (mode : u.mode = .between) : u.Completes u where
  feed c _ := by rw [feedChar, mode]
  settle := by rw [Scanner.settle, mode]

end Scanner

def Unit16.written (c : Char) : Unit16 :=
  if c.toNat < 0x20 ∧ c ∉ ['\x08', '\x0c', '\n', '\r', '\t'] then .code c.toNat else .char c

theorem Unit16.decode_written (cs : List Char) : decode (cs.map written) = .ok cs := by
  induction cs with
  | nil => rfl
  | cons c cs ih =>
    rw [List.map_cons, written]
    split
    next escaped =>
      rw [decode.eq_def]
      dsimp only
      rw [if_neg (by omega), if_neg (by omega), ih, Except.map, Char.ofNat_toNat]
    next => rw [decode, ih]; rfl

theorem hexDigit?_hexDigit {n : Nat} (small : n < 16) :
    Scanner.hexDigit? (hexDigit n) = some n := by
  have all : ∀ n < 16, Scanner.hexDigit? (hexDigit n) = some n := by decide
  exact all n small

namespace Scanner

variable {s : Scanner}

theorem takes_escapeChar (s : Scanner) (units : List Unit16) (c : Char) :
    { s with mode := .text units }.takes (escapeChar c) =
      some { s with mode := .text (Unit16.written c :: units) } := by
  unfold escapeChar
  split
  iterate 7 rfl
  next _ quote backslash bs ff nl cr tab =>
    have no_letter : c ∉ ['\x08', '\x0c', '\n', '\r', '\t'] := by
      simp only [List.mem_cons, List.not_mem_nil, or_false, not_or]
      exact ⟨bs, ff, nl, cr, tab⟩
    by_cases control : c.toNat < 0x20
    · have high : hexDigit? (hexDigit (c.toNat / 16)) = some (c.toNat / 16) :=
        hexDigit?_hexDigit (by omega)
      have low : hexDigit? (hexDigit (c.toNat % 16)) = some (c.toNat % 16) :=
        hexDigit?_hexDigit (by omega)
      have zero : hexDigit? '0' = some 0 := by decide
      have value : c.toNat / 16 * 16 + c.toNat % 16 = c.toNat := Nat.div_add_mod' _ _
      rw [if_pos control, Unit16.written, if_pos ⟨control, no_letter⟩]
      simp [takes_cons, feedChar, high, low, zero, value]
    · rw [if_neg control, Unit16.written, if_neg fun h => control h.1]
      simp only [takes_cons, feedChar, if_neg quote, if_neg backslash, if_neg control,
        Option.bind_some, takes_nil]

theorem takes_escaped (s : Scanner) (units : List Unit16) (cs : List Char) :
    { s with mode := .text units }.takes (cs.flatMap escapeChar) =
      some { s with mode := .text ((cs.map Unit16.written).reverse ++ units) } := by
  induction cs generalizing units with
  | nil => rfl
  | cons c cs ih =>
    rw [List.flatMap_cons, takes_append, takes_escapeChar, Option.bind_some, ih, List.map_cons,
      List.reverse_cons, List.append_assoc, List.singleton_append]

/-- A literal is taken as the text that it was written for, whether a value or a name is due. -/
theorem takes_quote (mode : s.mode = .between) (due : (s.wantsValue || s.wantsKey) = true)
    (cs : List Char) :
    s.takes (quote cs) =
      { s with mode := .text (cs.map Unit16.written).reverse }.endText
        (cs.map Unit16.written).reverse := by
  have opened : s.feedChar '"' = some { s with mode := .text [] } := by
    rw [feedChar, mode]
    dsimp only
    rw [feedBetween]
    simp only [Char.reduceEq, or_self, if_false, if_true, due]
  rw [quote, takes_cons, opened, Option.bind_some, takes_append, takes_escaped, Option.bind_some,
    takes_cons, feedChar, List.append_nil]
  simp only [if_true]
  exact Option.bind_fun_some _

theorem Awaits.takes_text (h : s.Awaits) (text : String) :
    s.takes (quote text.toList) = some (s.place (.str (.ok text))) := by
  have no_key : s.wantsKey = false := by
    have wants := h.wants
    revert wants
    cases expect : s.expect <;> simp [wantsKey, wantsValue, expect]
  rw [takes_quote h.mode (by simp [h.wants])]
  unfold endText
  rw [List.reverse_reverse, Unit16.decode_written, if_neg (by simpa [wantsKey] using no_key)]
  simp only [Except.map, String.ofList_toList]
  exact congrArg some (place_congr h.named rfl rfl _)

/-- A name is taken in an object, and its value is due then. -/
theorem takes_name {members : List (Option String × Draft)} {fs : List Frame}
    (mode : s.mode = .between) (due : s.wantsKey = true)
    (frames : s.frames = .obj members none :: fs) (name : String) :
    s.takes (quote name.toList ++ [':']) =
      some { s with expect := .value, frames := .obj members (some (some name)) :: fs } := by
  rw [takes_append, takes_quote mode (by simp [due])]
  unfold endText
  rw [List.reverse_reverse, Unit16.decode_written, if_pos (by simpa [wantsKey] using due)]
  simp [frames, Except.map, Except.toOption, takes_cons, feedChar, feedBetween, mode]

theorem takes_letters (s : Scanner) (word : List Char) (last : Char) (d : Draft) :
    { s with mode := .word (word ++ [last]) d }.takes (word ++ [last]) =
      some ({ s with mode := .word [last] d }.place d) := by
  induction word with
  | nil => simp [takes_cons, feedChar]
  | cons b word ih =>
    rw [List.cons_append, takes_cons, feedChar]
    cases word with
    | nil => simpa using ih
    | cons a word => simpa using ih

theorem Awaits.takes_word (h : s.Awaits) {first last : Char} {word : List Char} {d : Draft}
    (started : s.feedChar first = some { s with mode := .word (word ++ [last]) d }) :
    s.takes (first :: (word ++ [last])) = some (s.place d) := by
  rw [takes_cons, started, Option.bind_some, takes_letters]
  exact congrArg some (place_congr h.named rfl rfl _)

theorem Awaits.takes_null (h : s.Awaits) : s.takes (chars .null) = some (s.place .null) := by
  have started : s.feedChar 'n' = some { s with mode := .word (['u', 'l'] ++ ['l']) .null } := by
    simp [feedChar, feedBetween, h.mode, h.wants]
  exact h.takes_word started

theorem Awaits.takes_bool (h : s.Awaits) (b : Bool) :
    s.takes (chars (.bool b)) = some (s.place (.bool b)) := by
  cases b with
  | true =>
    have started : s.feedChar 't' =
        some { s with mode := .word (['r', 'u'] ++ ['e']) (.bool true) } := by
      simp [feedChar, feedBetween, h.mode, h.wants]
    exact h.takes_word started
  | false =>
    have started : s.feedChar 'f' =
        some { s with mode := .word (['a', 'l', 's'] ++ ['e']) (.bool false) } := by
      simp [feedChar, feedBetween, h.mode, h.wants]
    exact h.takes_word started

theorem takes_digits (s : Scanner) (literal : List Char) {cs : List Char}
    (digits : ∀ c ∈ cs, c.isDigit = true) :
    { s with mode := .number .whole literal }.takes cs =
      some { s with mode := .number .whole (cs.reverse ++ literal) } := by
  induction cs generalizing literal with
  | nil => rfl
  | cons c cs ih =>
    have first : { s with mode := .number .whole literal }.feedChar c =
        some { s with mode := .number .whole (c :: literal) } := by
      simp [feedChar, NumberState.next?, digits c List.mem_cons_self]
    rw [takes_cons, first, Option.bind_some, ih _ fun d hd => digits d (List.mem_cons_of_mem c hd),
      List.reverse_cons, List.append_assoc, List.singleton_append]

theorem Awaits.completes_number (h : s.Awaits) {state : NumberState}
    (whole : state = .zero ∨ state = .whole) {literal : List Char} {n : Number}
    (exact : Number.ofLiteral literal.reverse = .ok n) :
    { s with mode := .number state literal }.Completes (s.place (.num (.ok n))) where
  feed c delimiter := by
    have ends : state.next? c = none := by
      rcases whole with rfl | rfl <;> rcases delimiter with rfl | rfl | rfl <;> decide
    have may_end : (state.complete && !(state = .zero && c.isDigit)) = true := by
      rcases whole with rfl | rfl <;> rcases delimiter with rfl | rfl | rfl <;> decide
    simp only [feedChar, ends, may_end, if_true, exact]
    exact congrArg (feedBetween · c) (place_congr h.named rfl rfl _)
  settle := by
    have complete : state.complete = true := by rcases whole with rfl | rfl <;> rfl
    simp only [Scanner.settle, complete, if_true, exact]
    exact place_congr h.named rfl rfl _

theorem Awaits.feedChar_digit (h : s.Awaits) {c : Char} (digit : c.isDigit = true)
    (nonzero : c ≠ '0') : s.feedChar c = some { s with mode := .number .whole [c] } := by
  have other : ∀ d : Char, d.isDigit = false → c ≠ d := by
    rintro d no_digit rfl
    rw [no_digit] at digit
    cases digit
  simp [feedChar, feedBetween, h.mode, h.wants, digit, nonzero, other]

theorem Awaits.takes_wholeDigits (h : s.Awaits) {n : Int} (word : IsWord n) :
    ∃ t, s.takes (wholeDigits n) = some t ∧ t.Completes (s.place (.num (.ok (.whole n)))) := by
  have read := ofLiteral_wholeDigits word
  have completes : ∀ {state : NumberState}, state = .zero ∨ state = .whole →
      { s with mode := .number state (wholeDigits n).reverse }.Completes
        (s.place (.num (.ok (.whole n)))) := fun whole =>
    h.completes_number whole (by rwa [List.reverse_reverse])
  cases n with
  | ofNat k =>
    rcases Nat.eq_zero_or_pos k with rfl | pos
    · refine ⟨_, ?_, completes (.inl rfl)⟩
      simp [wholeDigits, takes_cons, feedChar, feedBetween, h.mode, h.wants]
    · obtain ⟨c, cs, digits, nonzero⟩ := toDigits_eq_cons pos
      have all : ∀ d ∈ c :: cs, d.isDigit = true :=
        fun d hd => isDigit_of_mem_toDigits (digits ▸ hd)
      refine ⟨_, ?_, completes (.inr rfl)⟩
      simp only [wholeDigits, digits]
      rw [takes_cons, h.feedChar_digit (all c List.mem_cons_self) nonzero, Option.bind_some,
        takes_digits _ _ fun d hd => all d (List.mem_cons_of_mem c hd), List.reverse_cons]
  | negSucc k =>
    obtain ⟨c, cs, digits, nonzero⟩ := toDigits_eq_cons (Nat.succ_pos k)
    have all : ∀ d ∈ c :: cs, d.isDigit = true := fun d hd => isDigit_of_mem_toDigits (digits ▸ hd)
    have minus : s.feedChar '-' = some { s with mode := .number .minus ['-'] } := by
      simp [feedChar, feedBetween, h.mode, h.wants]
    have first : { s with mode := .number .minus ['-'] }.feedChar c =
        some { s with mode := .number .whole [c, '-'] } := by
      simp [feedChar, NumberState.next?, nonzero, all c List.mem_cons_self]
    refine ⟨_, ?_, completes (.inr rfl)⟩
    simp only [wholeDigits, digits]
    rw [takes_cons, minus, Option.bind_some, takes_cons, first, Option.bind_some,
      takes_digits _ _ fun d hd => all d (List.mem_cons_of_mem c hd)]
    simp

/-- The characters of a value are taken wherever a value may come. -/
def TakesChars (j : Json) : Prop :=
  ∀ s : Scanner, s.Awaits → ∃ t, s.takes j.chars = some t ∧ t.Completes (s.place j.toDraft)

theorem takes_separated {items : List Json} (taken : ∀ j ∈ items, TakesChars j)
    (some_item : items ≠ []) (before : List Draft) (fs : List Frame) (r : Option Draft)
    {e : Expect} (wants : e = .value ∨ e = .valueOrClose) :
    ∃ t, takes ⟨.between, .arr before :: fs, e, r⟩ (chars.separated items) = some t ∧
      t.Completes
        ⟨.between, .arr ((toDraft.drafts items).reverse ++ before) :: fs, .commaOrClose, r⟩ := by
  induction items generalizing before e with
  | nil => exact absurd rfl some_item
  | cons j items ih =>
    have awaits : Awaits ⟨.between, .arr before :: fs, e, r⟩ :=
      ⟨rfl, by rcases wants with rfl | rfl <;> rfl, by simp⟩
    obtain ⟨t, first, completes⟩ := taken j List.mem_cons_self _ awaits
    cases items with
    | nil => exact ⟨t, first, completes⟩
    | cons k items =>
      obtain ⟨u, others, rest⟩ := ih (fun j hj => taken j (List.mem_cons_of_mem _ hj)) (by simp)
        (j.toDraft :: before) (.inl rfl)
      have comma : t.feedChar ',' =
          some ⟨.between, .arr (j.toDraft :: before) :: fs, .value, r⟩ := by
        rw [completes.feed ',' (.inl rfl)]
        rfl
      refine ⟨u, ?_, ?_⟩
      · rw [chars.separated, takes_append, first, Option.bind_some, takes_cons, comma,
          Option.bind_some, others]
        simp
      · simpa [toDraft.drafts] using rest

theorem Awaits.close_list (h : s.Awaits) (items : List Draft) {e : Expect}
    (may_close : e = .valueOrClose ∨ e = .commaOrClose) :
    feedBetween ⟨.between, .arr items :: s.frames, e, s.result⟩ ']' =
      some (s.place (.arr items.reverse true)) := by
  have placed := place_congr h.named (t := ⟨.between, s.frames, e, s.result⟩) rfl rfl
    (.arr items.reverse true)
  simp [feedBetween, close, may_close, placed]

theorem takesChars_arr {items : List Json} (taken : ∀ j ∈ items, TakesChars j) :
    TakesChars (.arr items) := by
  intro s awaits
  have opened : s.feedChar '[' = some ⟨.between, .arr [] :: s.frames, .valueOrClose, s.result⟩ := by
    simp [feedChar, feedBetween, awaits.mode, awaits.wants]
  refine ⟨_, ?_, .refl (mode_place s _)⟩
  rw [chars, takes_cons, opened, Option.bind_some, takes_append]
  by_cases none : items = []
  · subst none
    rw [chars.separated, takes_nil, Option.bind_some, takes_cons, feedChar,
      awaits.close_list [] (.inl rfl)]
    rfl
  · obtain ⟨t, inside, completes⟩ := takes_separated taken none [] s.frames s.result (.inr rfl)
    rw [inside, Option.bind_some, takes_cons, completes.feed ']' (.inr (.inl rfl)),
      awaits.close_list _ (.inr rfl), List.append_nil, List.reverse_reverse]
    rfl

theorem takes_separatedMembers {members : List (String × Json)}
    (taken : ∀ m ∈ members, TakesChars m.2) (some_member : members ≠ [])
    (before : List (Option String × Draft)) (fs : List Frame) (r : Option Draft) {e : Expect}
    (wants : e = .key ∨ e = .keyOrClose) :
    ∃ t, takes ⟨.between, .obj before none :: fs, e, r⟩ (chars.separatedMembers members) = some t ∧
      t.Completes ⟨.between, .obj ((toDraft.memberDrafts members).reverse ++ before) none :: fs,
        .commaOrClose, r⟩ := by
  induction members generalizing before e with
  | nil => exact absurd rfl some_member
  | cons m members ih =>
    obtain ⟨name, j⟩ := m
    have named : takes ⟨.between, .obj before none :: fs, e, r⟩ (quote name.toList ++ [':']) =
        some ⟨.between, .obj before (some (some name)) :: fs, .value, r⟩ :=
      takes_name rfl (by rcases wants with rfl | rfl <;> rfl) rfl name
    have awaits : Awaits ⟨.between, .obj before (some (some name)) :: fs, .value, r⟩ :=
      ⟨rfl, rfl, by simp⟩
    obtain ⟨t, first, completes⟩ := taken (name, j) List.mem_cons_self _ awaits
    have member : takes ⟨.between, .obj before none :: fs, e, r⟩
        (quote name.toList ++ ':' :: j.chars) = some t := by
      rw [List.append_cons, takes_append, named, Option.bind_some, first]
    cases members with
    | nil => exact ⟨t, member, completes⟩
    | cons k members =>
      obtain ⟨u, others, rest⟩ := ih (fun m hm => taken m (List.mem_cons_of_mem _ hm)) (by simp)
        ((some name, j.toDraft) :: before) (.inl rfl)
      have comma : t.feedChar ',' =
          some ⟨.between, .obj ((some name, j.toDraft) :: before) none :: fs, .key, r⟩ := by
        rw [completes.feed ',' (.inl rfl)]
        rfl
      refine ⟨u, ?_, ?_⟩
      · rw [chars.separatedMembers, takes_append, member, Option.bind_some, takes_cons, comma,
          Option.bind_some, others]
        simp
      · simpa [toDraft.memberDrafts] using rest

theorem Awaits.close_object (h : s.Awaits) (members : List (Option String × Draft)) {e : Expect}
    (may_close : e = .keyOrClose ∨ e = .commaOrClose) :
    feedBetween ⟨.between, .obj members none :: s.frames, e, s.result⟩ '\x7d' =
      some (s.place (.obj members.reverse true)) := by
  have placed := place_congr h.named (t := ⟨.between, s.frames, e, s.result⟩) rfl rfl
    (.obj members.reverse true)
  simp [feedBetween, close, may_close, placed]

theorem takesChars_obj {members : List (String × Json)} (taken : ∀ m ∈ members, TakesChars m.2) :
    TakesChars (.obj members) := by
  intro s awaits
  have opened : s.feedChar '\x7b' =
      some ⟨.between, .obj [] none :: s.frames, .keyOrClose, s.result⟩ := by
    simp [feedChar, feedBetween, awaits.mode, awaits.wants]
  refine ⟨_, ?_, .refl (mode_place s _)⟩
  rw [chars, takes_cons, opened, Option.bind_some, takes_append]
  by_cases none : members = []
  · subst none
    rw [chars.separatedMembers, takes_nil, Option.bind_some, takes_cons, feedChar,
      awaits.close_object [] (.inl rfl)]
    rfl
  · obtain ⟨t, inside, completes⟩ :=
      takes_separatedMembers taken none [] s.frames s.result (.inr rfl)
    rw [inside, Option.bind_some, takes_cons, completes.feed '\x7d' (.inr (.inr rfl)),
      awaits.close_object _ (.inr rfl), List.append_nil, List.reverse_reverse]
    rfl

end Scanner

open Scanner

theorem Plain.takesChars {j : Json} (plain : Plain j) : TakesChars j := by
  induction plain with
  | null => exact fun s h => ⟨_, h.takes_null, .refl (mode_place s _)⟩
  | bool b => exact fun s h => ⟨_, h.takes_bool b, .refl (mode_place s _)⟩
  | whole word => exact fun s h => h.takes_wholeDigits word
  | str text => exact fun s h => ⟨_, h.takes_text text, .refl (mode_place s _)⟩
  | arr _ ih => exact takesChars_arr ih
  | obj _ ih => exact takesChars_obj ih

/-- A value is read back from what is written of it. -/
theorem Plain.ofSymbols_chars {j : Json} (plain : Plain j) :
    Draft.ofSymbols (j.chars.map some) = (j.toDraft, true) := by
  have awaits : start.Awaits := ⟨rfl, rfl, by simp [start]⟩
  obtain ⟨t, taken, completes⟩ := plain.takesChars start awaits
  rw [Draft.ofSymbols, run_of_takes taken, finish, completes.settle]
  rfl

end LearningMap.Json
