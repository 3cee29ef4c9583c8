import LearningMap.Token.Base64

/-!
# Base 64 loses nothing

Bytes are written in digits below 64, of which each has a character of its own, and three bytes take
up the bits of four digits exactly. So what is written is read as the same bytes. There is no
character for a point among the digits.
-/

namespace LearningMap.Base64

theorem value?_digit {n : Nat} (small : n < 64) : value? (digit n) = some n := by
  have all : ∀ n < 64, value? (digit n) = some n := by decide
  exact all n small

theorem digit_ne_point_and_ascii (n : Nat) : digit n ≠ '.' ∧ (digit n).toNat < 127 := by
  by_cases small : n < 63
  · have all : ∀ n < 63, digit n ≠ '.' ∧ (digit n).toNat < 127 := by decide
    exact all n small
  · have last : digit n = '_' := by
      unfold digit
      rw [if_neg (by omega), if_neg (by omega), if_neg (by omega), if_neg (by omega)]
    rw [last]
    decide

theorem ne_point_and_ascii_of_mem_encode {bytes : List UInt8} {c : Char} (h : c ∈ encode bytes) :
    c ≠ '.' ∧ c.toNat < 127 := by
  obtain ⟨n, -, rfl⟩ := List.mem_map.mp h
  exact digit_ne_point_and_ascii n

theorem lt_of_mem_values {bytes : List UInt8} {n : Nat} (h : n ∈ values bytes) : n < 64 := by
  fun_induction values bytes with
  | case1 => cases h
  | case2 a =>
    have := a.toNat_lt
    simp only [List.mem_cons, List.not_mem_nil, or_false] at h
    omega
  | case3 a b =>
    have := a.toNat_lt
    have := b.toNat_lt
    simp only [List.mem_cons, List.not_mem_nil, or_false] at h
    omega
  | case4 a b c rest ih =>
    have := a.toNat_lt
    have := b.toNat_lt
    have := c.toNat_lt
    simp only [List.mem_cons] at h
    rcases h with h | h | h | h | h
    · omega
    · omega
    · omega
    · omega
    · exact ih h

theorem ofNat_eq {a : UInt8} {n : Nat} (same : n = a.toNat) : UInt8.ofNat n = a := by
  rw [same, UInt8.ofNat_toNat]

theorem bytes?_values (bytes : List UInt8) : bytes? (values bytes) = some bytes := by
  fun_induction values bytes with
  | case1 => rfl
  | case2 a =>
    rw [bytes?, if_pos (by omega), ofNat_eq (a := a) (by omega)]
  | case3 a b =>
    have := b.toNat_lt
    rw [bytes?, if_pos (by omega), ofNat_eq (a := a) (by omega), ofNat_eq (a := b) (by omega)]
  | case4 a b c rest ih =>
    have := b.toNat_lt
    have := c.toNat_lt
    rw [bytes?, ih, Option.map_some, ofNat_eq (a := a) (by omega), ofNat_eq (a := b) (by omega),
      ofNat_eq (a := c) (by omega)]

theorem mapM_value?_map_digit {ns : List Nat} (small : ∀ n ∈ ns, n < 64) :
    (ns.map digit).mapM value? = some ns := by
  induction ns with
  | nil => rfl
  | cons n ns ih =>
    rw [List.map_cons, List.mapM_cons, value?_digit (small n List.mem_cons_self),
      ih fun m hm => small m (List.mem_cons_of_mem n hm)]
    rfl

/-- What is written of bytes is read as these bytes. -/
theorem decode_encode (bytes : List UInt8) : decode (encode bytes) = some bytes := by
  rw [decode, encode, mapM_value?_map_digit fun n hn => lt_of_mem_values hn]
  exact bytes?_values bytes

/-- Only digits are read. -/
theorem point_not_mem_of_decode {cs : List Char} {bytes : List UInt8}
    (read : decode cs = some bytes) : '.' ∉ cs := by
  obtain ⟨ns, digits, -⟩ := Option.bind_eq_some_iff.mp read
  clear read
  induction cs generalizing ns with
  | nil => simp
  | cons c cs ih =>
    rw [List.mapM_cons] at digits
    obtain ⟨n, first, rest⟩ := Option.bind_eq_some_iff.mp digits
    obtain ⟨ms, others, -⟩ := Option.bind_eq_some_iff.mp rest
    rw [List.mem_cons, not_or]
    refine ⟨?_, ih ms others⟩
    rintro rfl
    cases first

end LearningMap.Base64
