import LearningMap.Pattern.Expr

/-!
# The layout of an expression

An automaton is laid out from an expression in a plainer form. Rows within rows are one row, and
characters in a row are one word. A choice between characters or between sets is one set. What all
alternatives of a choice start with stands before it, once. A repetition of what is always empty is
no more than an option.
-/

namespace LearningMap.Pattern

open Unicode (CharSet)

inductive Layout where
  | empty
  | word (cs : List Char)
  /-- A set; those of bytes are told apart from those of characters. -/
  | set (s : CharSet) (bytes : Bool)
  | look (l : Look)
  | rep (least : Nat) (most : Option Nat) (lazily : Bool) (body : Layout)
  | group (number : Nat) (body : Layout)
  /-- Two or more parts in a row, none of them a row or empty. -/
  | row (parts : List Layout)
  | choice (branches : List Layout)
  deriving Inhabited

namespace Layout

mutual

def same : Layout → Layout → Bool
  | empty, empty => true
  | word cs, word ds => cs == ds
  | set s b, set t c => s == t && b == c
  | look l, look m => l == m
  | rep l m z p, rep l' m' z' q => l == l' && m == m' && z == z' && p.same q
  | group n p, group k q => n == k && p.same q
  | row ps, row qs => sameParts ps qs
  | choice ps, choice qs => sameParts ps qs
  | _, _ => false

def sameParts : List Layout → List Layout → Bool
  | [], [] => true
  | p :: ps, q :: qs => p.same q && sameParts ps qs
  | _, _ => false

end

mutual

/-- The fewest characters of a match, where they are known: a set of none has no match. -/
def leastLength : Layout → Option Nat
  | empty | look _ => some 0
  | word cs => some cs.length
  | set s _ => if s.ranges.isEmpty then none else some 1
  | rep least _ _ p => p.leastLength.map (least * ·)
  | group _ p => p.leastLength
  | row ps => (leastLengths ps).map List.sum
  | choice ps => (leastLengths ps).bind List.min?

def leastLengths : List Layout → Option (List Nat)
  | [] => some []
  | p :: ps => do pure ((← p.leastLength) :: (← leastLengths ps))

end

mutual

def onlyEmpty : Layout → Bool
  | empty | look _ => true
  | word _ | set _ _ => false
  | rep _ most _ p => most == some 0 || (most.isSome && p.onlyEmpty)
  | group _ p => p.onlyEmpty
  | row ps | choice ps => allOnlyEmpty ps

def allOnlyEmpty : List Layout → Bool
  | [] => true
  | p :: ps => p.onlyEmpty && allOnlyEmpty ps

end

mutual

/-- Whether a match can only start at the start of the text: `parts` are looked through as far as
nothing is read before them. -/
def fromStart : Layout → Bool
  | look l => l == .textStart
  | rep least _ _ p => least != 0 && p.fromStart
  | group _ p => p.fromStart
  | row ps => someFromStart ps
  | choice ps => allFromStart ps
  | _ => false

def someFromStart : List Layout → Bool
  | [] => false
  | p :: ps => p.fromStart || (p.onlyEmpty && someFromStart ps)

def allFromStart : List Layout → Bool
  | [] => true
  | p :: ps => p.fromStart && allFromStart ps

end

mutual

def toEnd : Layout → Bool
  | look l => l == .textEnd
  | rep least _ _ p => least != 0 && p.toEnd
  | group _ p => p.toEnd
  | row ps => someToEnd ps
  | choice ps => allToEnd ps
  | _ => false

def someToEnd : List Layout → Bool
  | [] => false
  | p :: ps => someToEnd ps || (p.toEnd && allOnlyEmpty ps)

def allToEnd : List Layout → Bool
  | [] => true
  | p :: ps => p.toEnd && allToEnd ps

end

def ofSet (s : CharSet) (bytes : Bool) : Layout :=
  match s.ranges with
  | [] => set s true
  | [(a, b)] => if a = b then word [Char.ofNat a] else set s bytes
  | _ => set s bytes

def parts : Layout → List Layout
  | empty => []
  | row ps => ps
  | p => [p]

def branches : Layout → List Layout
  | choice ps => ps
  | p => [p]

def joinWords : List Layout → List Layout
  | [] => []
  | word cs :: ps =>
    match joinWords ps with
    | word ds :: qs => word (cs ++ ds) :: qs
    | qs => word cs :: qs
  | p :: ps => p :: joinWords ps

def ofRow (ps : List Layout) : Layout :=
  match joinWords (ps.flatMap parts) with
  | [] => empty
  | [p] => p
  | ps => row ps

def single? : Layout → Option Char
  | word [c] => some c
  | _ => none

def set? : Layout → Option CharSet
  | set s _ => some s
  | _ => none

/-- The set that a choice between characters or between sets comes to. -/
def mergedSet? (ps : List Layout) : Option CharSet :=
  ((ps.mapM single?).map fun cs => .ofRanges (cs.map fun c => (c.toNat, c.toNat))) <|>
    ((ps.mapM set?).map fun sets => .ofRanges (sets.flatMap (·.ranges)))

def commonLength : List Layout → List Layout → Nat
  | p :: ps, q :: qs => if p.same q then commonLength ps qs + 1 else 0
  | _, _ => 0

def row? : Layout → Option (List Layout)
  | row ps => some ps
  | _ => none

def commonParts? (rows : List (List Layout)) : Option (List Layout × List Layout) :=
  match rows with
  | first :: second :: more =>
    let common := (second :: more).foldl (fun n r => min n (commonLength first r)) first.length
    if common = 0 then none
    else some (first.take common, rows.map fun r => ofRow (r.drop common))
  | _ => none

/-- Alternatives to choose from. When all are rows that start alike, the common parts stand before
the choice. Choices among what is left are then alternatives too and may start alike again, at most
`depth` times. -/
def liftChoice (depth : Nat) (ps : List Layout) : Layout :=
  match ps.flatMap branches with
  | [] => ofSet .empty true
  | [p] => p
  | ps =>
    match mergedSet? ps with
    | some s => ofSet s false
    | none =>
      match depth, (ps.mapM row?).bind commonParts? with
      | depth + 1, some (common, rests) => ofRow (common ++ [liftChoice depth rests])
      | _, _ => choice ps

/-- How often the common parts of alternatives are looked for: as deep as a pattern may nest. -/
def liftDepth : Nat := 250

def ofChoice (ps : List Layout) : Layout := liftChoice liftDepth ps

/-- A repetition. None at all is empty, and once is the part itself. -/
def ofRep (least : Nat) (most : Option Nat) (lazily : Bool) (p : Layout) : Layout :=
  let (least, most) :=
    if p.onlyEmpty then (min least 1, some (min (most.getD 1) 1)) else (least, most)
  if most = some 0 then empty
  else if least = 1 ∧ most = some 1 then p
  else rep least most lazily p

end Layout

end LearningMap.Pattern
