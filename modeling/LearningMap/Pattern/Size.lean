import LearningMap.Pattern.Layout
import LearningMap.Text

/-!
# The size of a compiled expression

An expression is refused when the automaton for it would take more than ten megabytes. The automaton
reads bytes of UTF-8. There is one that reads forward and one that reads backward; both have to fit.
A state takes 32 bytes, a transition on a range of bytes 8, and a branch 4. A repetition is laid out
as often as it may be needed.
-/

namespace LearningMap.Pattern

open Unicode (CharSet)

/-- The bytes that the automata take that read forward and backward. -/
structure Size where
  forward : Nat
  backward : Nat
  deriving DecidableEq

namespace Size

def limit : Nat := 10 * 1024 * 1024

def fits (s : Size) : Bool := s.forward ≤ limit && s.backward ≤ limit

def state : Nat := 32

def both (n : Nat) : Size := ⟨n, n⟩

def zero : Size := both 0

instance : Add Size := ⟨fun a b => ⟨a.forward + b.forward, a.backward + b.backward⟩⟩

def times (n : Nat) (s : Size) : Size := ⟨n * s.forward, n * s.backward⟩

abbrev DigitRanges := List (Nat × Nat)

def split : Nat → Nat → Nat → List DigitRanges
  | 0, a, b => [[(a, b)]]
  | n + 1, a, b =>
    let block := 64 ^ (n + 1)
    let (ha, ra) := (a / block, a % block)
    let (hb, rb) := (b / block, b % block)
    if ha = hb then (split n ra rb).map ((ha, ha) :: ·)
    else
      let low := if ra = 0 then [] else (split n ra (block - 1)).map ((ha, ha) :: ·)
      let high := if rb = block - 1 then [] else (split n 0 rb).map ((hb, hb) :: ·)
      let first := if ra = 0 then ha else ha + 1
      let past := if rb = block - 1 then hb + 1 else hb
      let mid := if first < past
        then [(first, past - 1) :: List.replicate (n + 1) (0, 63)] else []
      low ++ mid ++ high

/-- The sequences of bytes for a range of code points. Leading bytes of different lengths are told
apart by adding a multiple of a number that no digit reaches. -/
def byteSequences (r : Nat × Nat) : List DigitRanges :=
  [(0, 0, 0x7F), (1, 0x80, 0x7FF), (2, 0x800, 0xD7FF), (2, 0xE000, 0xFFFF),
    (3, 0x10000, 0x10FFFF)].flatMap fun (n, least, most) =>
      let a := max r.1 least
      let b := min r.2 most
      if a ≤ b then (split n a b).map fun digits =>
        match digits with
        | (x, y) :: rest => (x + 1000 * n, y + 1000 * n) :: rest
        | [] => []
      else []

def groupByHead : List DigitRanges → List ((Nat × Nat) × List DigitRanges)
  | [] => []
  | [] :: rest => groupByHead rest
  | (h :: t) :: rest =>
    match groupByHead rest with
    | (k, ts) :: groups => if h = k then (k, t :: ts) :: groups else (h, [t]) :: (k, ts) :: groups
    | [] => [(h, [t])]

def nodes : Nat → List DigitRanges → List (List ((Nat × Nat) × List DigitRanges))
  | 0, _ => []
  | depth + 1, seqs =>
    match groupByHead seqs with
    | [] => []
    | groups => groups :: groups.flatMap fun g => nodes depth g.2

/-- The size of a set of characters. ASCII ranges are transitions of one state, and other sets are
trees of bytes: forward with alike subtrees shared, backward with alike beginnings shared. -/
def ofSet (s : CharSet) : Size :=
  if s.isAscii then both (2 * state + 8 * s.ranges.length)
  else
    let seqs := s.ranges.flatMap byteSequences
    let all := nodes 4 seqs
    let distinct := all.eraseDups
    { forward := state + distinct.foldl (fun n g => n + state + 8 * g.length) 0
      backward := 2 * state + all.foldl (fun n g => n + state * g.length) 0 + 4 * seqs.length }

/-- The sections of a choice between words, from one point inside them on: a word that ends there
ends a section. Until a word goes on, only the first end counts. -/
def sections (goesOn ended : Bool) (current : List (List UInt8)) :
    List (List UInt8) → List (List (List UInt8))
  | [] => [current.reverse]
  | [] :: rest =>
    if ended && !goesOn then sections goesOn ended current rest
    else current.reverse :: sections goesOn true [] rest
  | w :: rest => sections true ended (w :: current) rest

def byFirst (words : List (List UInt8)) : List (List (List UInt8)) :=
  let firsts := (words.filterMap List.head?).eraseDups
  firsts.map fun b => words.filterMap fun
    | c :: rest => if c = b then some rest else none
    | [] => none

/-- The bytes of the tree of some words of at most `depth` bytes: at each point a branch to its
sections, and a state for each section that goes on. -/
def tree : Nat → List (List UInt8) → Nat
  | 0, _ => 0
  | depth + 1, words =>
    if words.all List.isEmpty then 0
    else
      let sections := (sections false false [] words).map byFirst
      let goingOn := sections.filter (!·.isEmpty)
      let branch := state + 4 * (goingOn.length + (sections.length - 1))
      let states := goingOn.map fun s =>
        (if s.length = 1 then state else state + 8 * s.length) + (s.map (tree depth)).sum
      branch + states.sum

def ofWords (words : List (List Char)) : Size :=
  let words := words.map Text.bytes
  let depth := (words.map List.length).foldl max 0
  ⟨state + tree depth words, state + tree depth (words.map List.reverse)⟩

def rep (least : Nat) (most : Option Nat) (body : Size) (mayBeEmpty : Bool) : Size :=
  match least, most with
  | 0, none => if mayBeEmpty then body + both (3 * state + 16) else body + both (state + 8)
  | n + 1, none => times (n + 1) body + both (state + 8)
  | least, some most =>
    let copies := times (max least most) body
    let branches := both ((most - least) * (state + 8))
    let ending := if least = most then if least = 0 then both state else zero else both state
    let opening := if least = 0 ∧ least ≠ most ∧ most ≠ 1 then both state else zero
    copies + branches + ending + opening

end Size

namespace Layout

def word? : Layout → Option (List Char)
  | word cs => some cs
  | _ => none

mutual

/-- The size of a layout. A group that is remembered has its ends marked in the automaton that reads
forward. -/
def size : Layout → Size
  | empty | look _ => .both Size.state
  | word cs => .both (Size.state * (Text.bytes cs).length)
  | set s _ => .ofSet s
  | rep least most _ p => .rep least most p.size (p.leastLength.all (· == 0))
  | group _ p => p.size + ⟨2 * Size.state, 0⟩
  | row ps => sizes ps
  | choice ps =>
    match ps.mapM word? with
    | some words => .ofWords words
    | none => sizes ps + .both (2 * Size.state + 4 * ps.length)

def sizes : List Layout → Size
  | [] => .zero
  | p :: ps => p.size + sizes ps

end

/-- The size of what starts an automaton: a single state, or a loop over all that may come first. -/
def opening (anchored : Bool) : Nat := if anchored then Size.state else 3 * Size.state + 16

/-- Whether the automata for a layout fit: forward with a state for a match and two to mark its
ends, backward with one for a match. -/
def fits (p : Layout) : Bool :=
  let s := p.size
  (s + ⟨opening p.fromStart + 3 * Size.state, opening p.toEnd + Size.state⟩).fits

end Layout

end LearningMap.Pattern
