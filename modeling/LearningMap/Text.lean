/-!
# Texts

Texts are taken apart at a character, and stand for bytes in UTF-8. Bytes that stand for no text are
read as far as they can be: what belongs to no character is left out as such.
-/

namespace LearningMap.Text

def bytes (cs : List Char) : List UInt8 := (String.ofList cs).toUTF8.data.toList

def ofBytes? (bs : List UInt8) : Option String := String.fromUTF8? ⟨bs.toArray⟩

@[simp] theorem ofBytes?_bytes (cs : List Char) :
    ofBytes? (bytes cs) = some (String.ofList cs) := by
  have valid : (String.ofList cs).toUTF8.IsValidUTF8 := ⟨cs, rfl⟩
  simp only [ofBytes?, bytes, String.fromUTF8?, Array.toArray_toList]
  exact dif_pos valid

/-- The character that bytes start with, and the number of its bytes. -/
def firstChar? (bs : List UInt8) : Option (Char × Nat) :=
  [1, 2, 3, 4].findSome? fun size =>
    match (ofBytes? (bs.take size)).map String.toList with
    | some [c] => some (c, size)
    | _ => none

/-- The characters of bytes, with a gap for each byte that belongs to none. -/
def salvage : List UInt8 → List (Option Char)
  | [] => []
  | b :: bs =>
    match firstChar? (b :: bs) with
    | some (c, size) => some c :: salvage (bs.drop (size - 1))
    | none => none :: salvage bs
termination_by bs => bs.length
decreasing_by
  · simp only [List.length_drop, List.length_cons]
    omega
  · exact Nat.lt_succ_self bs.length

/-- What bytes say: their text, or the characters that there are among them. -/
def symbols (bs : List UInt8) : List (Option Char) :=
  match ofBytes? bs with
  | some t => t.toList.map some
  | none => salvage bs

@[simp] theorem symbols_bytes (cs : List Char) : symbols (bytes cs) = cs.map some := by
  simp [symbols]

/-- The pieces between the occurrences of a character; there is always one more of them. -/
def pieces (separator : Char) : List Char → List (List Char)
  | [] => [[]]
  | c :: cs =>
    match pieces separator cs with
    | [] => [[c]]
    | piece :: rest => if c = separator then [] :: piece :: rest else (c :: piece) :: rest

theorem length_pieces (separator : Char) (cs : List Char) :
    (pieces separator cs).length = cs.count separator + 1 := by
  induction cs with
  | nil => rfl
  | cons c cs ih =>
    cases h : pieces separator cs with
    | nil => simp [h] at ih
    | cons piece rest => by_cases hc : c = separator <;> simp_all [pieces]

theorem pieces_of_not_mem {separator : Char} {cs : List Char} (whole : separator ∉ cs) :
    pieces separator cs = [cs] := by
  induction cs with
  | nil => rfl
  | cons c cs ih =>
    rw [List.mem_cons, not_or] at whole
    simp only [pieces, ih whole.2, if_neg (Ne.symm whole.1)]

theorem pieces_append {separator : Char} {piece : List Char} (whole : separator ∉ piece)
    (rest : List Char) :
    pieces separator (piece ++ separator :: rest) = piece :: pieces separator rest := by
  induction piece with
  | nil =>
    cases others : pieces separator rest with
    | nil => simpa [others] using length_pieces separator rest
    | cons => simp only [List.nil_append, pieces, others, if_true]
  | cons c piece ih =>
    rw [List.mem_cons, not_or] at whole
    simp only [List.cons_append, pieces, ih whole.2, if_neg (Ne.symm whole.1)]

def splitFirst (separator : Char) (cs : List Char) : List Char × List Char :=
  (cs.takeWhile (· != separator), (cs.dropWhile (· != separator)).drop 1)

end LearningMap.Text
