import LearningMap.Proofs.Json.Reading
import LearningMap.Proofs.Token.Base64
import LearningMap.Token.Signed

/-!
# Tokens signed under the secret

The segments of a token hold no point, so a token comes apart as it was put together. Its signature
is then the one that is asked for, and what is left to check is what its claims say.
-/

namespace LearningMap

namespace Token

theorem splitLast_eq_none_iff {cs : List Char} : splitLast cs = none ↔ '.' ∉ cs := by
  induction cs with
  | nil => simp [splitLast]
  | cons c cs ih =>
    rw [List.mem_cons, not_or, ← ih]
    cases found : splitLast cs with
    | none => simp [splitLast, found, eq_comm]
    | some parts => simp [splitLast, found]

/-- A text comes apart at its last point. -/
theorem splitLast_append (message : List Char) {last : List Char} (no_point : '.' ∉ last) :
    splitLast (message ++ '.' :: last) = some (message, last) := by
  induction message with
  | nil => simp only [List.nil_append, splitLast, splitLast_eq_none_iff.mpr no_point, if_true]
  | cons c message ih => simp only [List.cons_append, splitLast, ih]

theorem splitLast_eq_some {cs message last : List Char}
    (split : splitLast cs = some (message, last)) : cs = message ++ '.' :: last ∧ '.' ∉ last := by
  induction cs generalizing message with
  | nil => cases split
  | cons c cs ih =>
    rw [splitLast] at split
    cases found : splitLast cs with
    | some parts =>
      obtain ⟨before, after⟩ := parts
      rw [found] at split
      cases split
      obtain ⟨rfl, no_point⟩ := ih found
      exact ⟨rfl, no_point⟩
    | none =>
      rw [found] at split
      dsimp only at split
      split at split
      next point =>
        cases split
        exact ⟨by rw [point, List.nil_append], splitLast_eq_none_iff.mp found⟩
      next => cases split

theorem point_not_mem_segment (j : Json) : '.' ∉ segment j := by
  intro h
  exact (Base64.ne_point_and_ascii_of_mem_encode h).1 rfl

theorem point_not_mem_sign (secret : String) (message : List Char) :
    '.' ∉ sign secret message := by
  intro h
  exact (Base64.ne_point_and_ascii_of_mem_encode h).1 rfl

theorem open?_eq_ok_iff {α : Type} {read : Json.Reader α} {cs : List Char} {a : α} :
    open? read cs = .ok a ↔ ∃ bytes d, Base64.decode cs = some bytes ∧
      Json.Draft.ofSymbols (Text.symbols bytes) = (d, true) ∧ read d = .ok a := by
  have complete : ∀ symbols, Json.Reader.ofSymbols read symbols = .ok a ↔
      ∃ d, Json.Draft.ofSymbols symbols = (d, true) ∧ read d = .ok a := by
    intro symbols
    unfold Json.Reader.ofSymbols
    obtain ⟨d, whole⟩ := Json.Draft.ofSymbols symbols
    cases value : read d <;> cases whole <;> simp [bind, Except.bind, value]
  unfold open?
  cases Base64.decode cs with
  | none => simp
  | some bytes =>
    simp only [Option.some.injEq, exists_and_left, exists_eq_left', ← complete]
    cases Json.Reader.ofSymbols read (Text.symbols bytes) <;> simp [Except.mapError]

/-- What a segment was made of is what is read in it. -/
theorem open?_segment {α : Type} {read : Json.Reader α} {j : Json} (plain : j.Plain) {a : α}
    (value : read j.toDraft = .ok a) : open? read (segment j) = .ok a := by
  refine open?_eq_ok_iff.mpr ⟨Text.bytes j.chars, j.toDraft, Base64.decode_encode _, ?_, value⟩
  rw [Text.symbols_bytes, plain.ofSymbols_chars]

theorem open?_standard :
    open? TokenHeader.reader (segment TokenHeader.standard.toJson) = .ok .standard := by
  have plain : TokenHeader.standard.toJson.Plain := by
    refine .obj ?_
    simp only [TokenHeader.standard, Option.map_some, Option.toList_some, List.cons_append,
      List.nil_append, List.forall_mem_cons, List.not_mem_nil, false_imp_iff, implies_true, and_true]
    exact ⟨.str _, .str _⟩
  exact open?_segment plain rfl

/-- A token that was made of claims is accepted under its secret if its claims can be read and are
valid at the time. -/
theorem validate_ofClaims (secret : String) (now : Int) (c : Claims) :
    validate secret now (ofClaims secret c) = (do
      let claims ← open? Claims.reader (segment c.toJson)
      let validity ← open? Validity.reader (segment c.toJson)
      validity.check now
      pure claims) := by
  unfold validate ofClaims
  rw [String.toList_ofList, splitLast_append _ (point_not_mem_sign _ _)]
  dsimp only
  rw [splitLast_append _ (point_not_mem_segment _)]
  simp only [open?_standard, ne_eq, not_true_eq_false, if_false]
  rfl

theorem ascii_ofClaims (secret : String) (c : Claims) :
    (ofClaims secret c).toList.all (fun c => c.toNat < 127) = true := by
  rw [List.all_eq_true]
  intro d hd
  rw [decide_eq_true_eq]
  simp only [ofClaims, String.toList_ofList, List.mem_append, List.mem_cons] at hd
  rcases hd with (first | rfl | payload) | rfl | signature
  · exact (Base64.ne_point_and_ascii_of_mem_encode first).2
  · decide
  · exact (Base64.ne_point_and_ascii_of_mem_encode payload).2
  · decide
  · exact (Base64.ne_point_and_ascii_of_mem_encode signature).2

end Token

end LearningMap
