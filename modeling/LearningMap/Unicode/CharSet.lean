/-!
# Sets of characters

A set of code points is a list of ranges, ascending, apart from each other and not adjacent. Reading
a range table and the set operations keep that form.
-/

namespace LearningMap.Unicode

/-- A set of code points, as ascending ranges with gaps between them. -/
structure CharSet where
  ranges : List (Nat × Nat)
  deriving DecidableEq, Inhabited

namespace CharSet

def greatest : Nat := 0x10FFFF

def empty : CharSet := ⟨[]⟩

def all : CharSet := ⟨[(0, greatest)]⟩

def single (n : Nat) : CharSet := ⟨[(n, n)]⟩

def has (s : CharSet) (n : Nat) : Bool := s.ranges.any fun r => r.1 ≤ n && n ≤ r.2

def contains (s : CharSet) (c : Char) : Bool := s.has c.toNat

/-- Ranges from a first one on, in the order of their starts: what overlaps or touches is joined. -/
def join (first last : Nat) : List (Nat × Nat) → List (Nat × Nat)
  | [] => [(first, last)]
  | (a, b) :: rest =>
    if a ≤ last + 1 then join first (max last b) rest else (first, last) :: join a b rest

def ofRanges (rs : List (Nat × Nat)) : CharSet :=
  match rs.mergeSort (fun a b => a.1 ≤ b.1) with
  | [] => ⟨[]⟩
  | (a, b) :: rest => ⟨join a b rest⟩

def gaps (next : Nat) : List (Nat × Nat) → List (Nat × Nat)
  | [] => if next ≤ greatest then [(next, greatest)] else []
  | (a, b) :: rest => if next < a then (next, a - 1) :: gaps (b + 1) rest else gaps (b + 1) rest

def compl (s : CharSet) : CharSet := ⟨gaps 0 s.ranges⟩

def union (s t : CharSet) : CharSet := ofRanges (s.ranges ++ t.ranges)

def inter (s t : CharSet) : CharSet := (s.compl.union t.compl).compl

/-- The code points of the first set that are not in the second. -/
def diff (s t : CharSet) : CharSet := s.inter t.compl

def symmDiff (s t : CharSet) : CharSet := (s.union t).diff (s.inter t)

def isAscii (s : CharSet) : Bool := s.ranges.all (·.2 ≤ 0x7F)

end CharSet

/-- Reads lines of entries such as `Lu26`, each a name and the number of code points that it goes on
for, from code point zero on: the names with their ranges. A comma may stand between name and
number. -/
def readRuns (table : List String) : List (String × Nat × Nat) :=
  ((table.flatMap (·.splitOn " ")).foldl (fun (acc, start) entry =>
    let cs := entry.toList
    let name := cs.takeWhile Char.isAlpha
    match (String.ofList ((cs.drop name.length).dropWhile (· = ','))).toNat? with
    | some size => ((String.ofList name, start, start + size - 1) :: acc, start + size)
    | none => (acc, start)) ([], 0)).1.reverse

end LearningMap.Unicode
