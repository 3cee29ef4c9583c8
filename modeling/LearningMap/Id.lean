import Std.Data.ExtTreeMap
import Std.Data.ExtTreeSet

/-!
# Identifiers

Every stored row has an integer identifier. Sets and maps over identifiers are ordered and
extensional: two of them with the same members are equal, and listing one is always ascending.
-/

namespace LearningMap

/-- The identifier of a stored row. -/
abbrev Id := Int

abbrev IdSet := Std.ExtTreeSet Id compare

abbrev IdMap (α : Type) := Std.ExtTreeMap Id α compare

namespace Id

def least : Id := -9223372036854775808

def greatest : Id := 9223372036854775807

/-- Whether an integer fits the signed 64 bits of an identifier. -/
def fits (n : Int) : Bool := least ≤ n && n ≤ greatest

theorem fits_iff {n : Int} :
    fits n = true ↔ -9223372036854775808 ≤ n ∧ n ≤ 9223372036854775807 := by
  rw [fits, Bool.and_eq_true, decide_eq_true_iff, decide_eq_true_iff]
  exact Iff.rfl

end Id

namespace IdSet

def ofList (ids : List Id) : IdSet := Std.ExtTreeSet.ofList ids compare

def insertAll (s : IdSet) (ids : List Id) : IdSet := ids.foldl (·.insert ·) s

@[simp] theorem mem_ofList {ids : List Id} {i : Id} : i ∈ ofList ids ↔ i ∈ ids := by
  simp [ofList]

@[simp] theorem mem_insertAll {s : IdSet} {ids : List Id} {i : Id} :
    i ∈ s.insertAll ids ↔ i ∈ s ∨ i ∈ ids := by
  induction ids generalizing s with
  | nil => simp [insertAll]
  | cons j ids ih =>
    simp only [insertAll, List.foldl_cons] at ih ⊢
    simp only [ih, Std.ExtTreeSet.mem_insert, Std.compare_eq_iff_eq, List.mem_cons]
    grind

end IdSet

end LearningMap
