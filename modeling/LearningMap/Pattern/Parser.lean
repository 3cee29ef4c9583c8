import LearningMap.Pattern.Lexeme
import LearningMap.Pattern.Size

/-!
# Reading a pattern

A pattern is read from left to right. Open groups wait on a stack, each with what stood before it
and with the flags to which its end returns; flags set inside a group hold until that end, also
across alternatives. Beside its expression every part has a depth of nesting and a size, which are
limited. A pattern that breaks a rule has no expression at all.
-/

namespace LearningMap.Pattern

open Unicode (CharSet)

inductive SetOp where
  | intersection
  | difference
  | symmetric
  deriving DecidableEq

def SetOp.apply : SetOp → CharSet → CharSet → CharSet
  | intersection, s, t => s.inter t
  | difference, s, t => s.diff t
  | symmetric, s, t => s.symmDiff t

structure ClassPart where
  set : CharSet
  depth : Nat

/-- A class being read: whether it is negated, the ranges of the items since the last operator, how
many items they are and how deep they nest, and what stands before that operator. -/
structure ClassLevel where
  negated : Bool
  items : List (Nat × Nat)
  count : Nat
  depth : Nat
  pending : Option (SetOp × ClassPart)

namespace ClassLevel

def start (negated : Bool) : ClassLevel := ⟨negated, [], 0, 0, none⟩

def add (l : ClassLevel) (p : ClassPart) : ClassLevel :=
  { l with
    items := p.set.ranges ++ l.items
    count := l.count + 1
    depth := max l.depth p.depth }

def value (l : ClassLevel) (f : Flags) : ClassPart :=
  let items : ClassPart := ⟨.ofRanges l.items, if l.count ≤ 1 then l.depth else l.depth + 1⟩
  match l.pending with
  | none => items
  | some (op, p) => ⟨op.apply (f.fold p.set) (f.fold items.set), max p.depth items.depth + 1⟩

def operator (l : ClassLevel) (f : Flags) (op : SetOp) : ClassLevel :=
  { start l.negated with pending := some (op, l.value f) }

def close (l : ClassLevel) (f : Flags) : Option ClassPart := do
  let p := l.value f
  pure ⟨← f.negate l.negated (f.fold p.set), p.depth + 1⟩

end ClassLevel

/-- What follows an opening bracket: whether the class is negated, and hyphens or a closing bracket
that stand for themselves. -/
def openClass (f : Flags) (cs : Chars) : Option (ClassLevel × Chars) :=
  let (negated, cs) := match f.pass cs with
    | '^' :: rest => (true, f.pass rest)
    | cs => (false, cs)
  let (hyphens, cs) := f.takeWhile (· = '-') cs
  let part (c : Char) : ClassPart := ⟨.single c.toNat, 0⟩
  let level := hyphens.foldl (fun l c => l.add (part c)) (.start negated)
  match hyphens, cs with
  | [], ']' :: rest =>
    let rest := f.pass rest
    if rest.isEmpty then none else some (level.add (part ']'), rest)
  | _, [] => none
  | _, cs => some (level, cs)

def asciiClass? (f : Flags) (cs : Chars) : Option (Option CharSet × Chars) :=
  match cs with
  | ':' :: rest =>
    let (negated, rest) := match rest with
      | '^' :: rest => (true, rest)
      | rest => (false, rest)
    let name := rest.takeWhile (· ≠ ':')
    match rest.drop name.length with
    | ':' :: ']' :: rest =>
      (Unicode.asciiNamed? name).map fun s => (f.negate negated (f.fold s), rest)
    | _ => none
  | _ => none

def classItem (f : Flags) : Chars → Option (Primitive × Chars)
  | '\\' :: rest => f.escape rest
  | c :: rest => some (.literal c false, rest)
  | [] => none

def Primitive.set? (f : Flags) : Primitive → Option CharSet
  | literal c _ => f.classLiteral c
  | set s => some s
  | look _ => none

/-- An item of a class, or a range between two characters. A hyphen before another hyphen or before
the closing bracket is no range. -/
def classRange (f : Flags) (cs : Chars) : Option (CharSet × Chars) := do
  let (first, rest) ← classItem f cs
  let rest := f.pass rest
  match rest with
  | [] => none
  | '-' :: more =>
    if f.peek? more = some ']' ∨ f.peek? more = some '-' then pure (← first.set? f, rest)
    else
      let (second, rest) ← classItem f (f.pass more)
      match first, second with
      | .literal a _, .literal b _ =>
        let _ ← f.classLiteral a
        let _ ← f.classLiteral b
        if a ≤ b then pure (⟨[(a.toNat, b.toNat)]⟩, rest) else none
      | _, _ => none
  | _ => pure (← first.set? f, rest)

/-- Reads a class from some point inside it, in at most so many steps: the class that is open, and
those around it. -/
def readClass (f : Flags) (steps : Nat) (level : ClassLevel) (outer : List ClassLevel)
    (cs : Chars) : Option (ClassPart × Chars) :=
  match steps, f.pass cs with
  | 0, _ | _, [] => none
  | steps + 1, '[' :: rest =>
    match asciiClass? f rest with
    | some (some s, rest) => readClass f steps (level.add ⟨s, 0⟩) outer rest
    | some (none, _) => none
    | none =>
      match openClass f rest with
      | some (inner, rest) => readClass f steps inner (level :: outer) rest
      | none => none
  | steps + 1, ']' :: rest =>
    match level.close f, outer with
    | some p, [] => some (p, rest)
    | some p, l :: outer => readClass f steps (l.add p) outer rest
    | none, _ => none
  | steps + 1, '&' :: '&' :: rest => readClass f steps (level.operator f .intersection) outer rest
  | steps + 1, '-' :: '-' :: rest => readClass f steps (level.operator f .difference) outer rest
  | steps + 1, '~' :: '~' :: rest => readClass f steps (level.operator f .symmetric) outer rest
  | steps + 1, cs =>
    match classRange f cs with
    | some (s, rest) => readClass f steps (level.add ⟨s, 0⟩) outer rest
    | none => none

structure Piece where
  expr : Expr
  depth : Nat
  layout : Layout
  /-- Flags are no expression and cannot be repeated. -/
  repeatable : Bool

namespace Piece

def leaf (e : Expr) (layout : Layout) : Piece := ⟨e, 0, layout, true⟩

def ofSet (f : Flags) (s : CharSet) : Piece := leaf (.chars s) (.ofSet s !f.unicode)

def ofLook (l : Look) : Piece := leaf (.look l) (.look l)

def flags : Piece := ⟨.empty, 0, .empty, false⟩

def sequence (pieces : List Piece) : Piece :=
  match pieces with
  | [] => leaf .empty .empty
  | [p] => p
  | ps =>
    { expr := .sequence (ps.reverse.map (·.expr))
      depth := ps.foldl (fun n p => max n p.depth) 0 + 1
      layout := .ofRow (ps.reverse.map (·.layout))
      repeatable := true }

def choice (pieces : List Piece) : Piece :=
  match pieces with
  | [p] => p
  | ps =>
    { expr := .choice (ps.reverse.map (·.expr))
      depth := ps.foldl (fun n p => max n p.depth) 0 + 1
      layout := .ofChoice (ps.reverse.map (·.layout))
      repeatable := true }

/-- A part repeated. What is always empty is as good once. -/
def rep (p : Piece) (least : Nat) (most : Option Nat) (lazily : Bool) : Piece :=
  let (once, upTo) :=
    if p.layout.onlyEmpty then (min least 1, some (min (most.getD 1) 1)) else (least, most)
  { expr := .rep once upTo p.expr
    depth := p.depth + 1
    layout := .ofRep least most lazily p.layout
    repeatable := true }

def group (p : Piece) (number : Option Nat) : Piece :=
  { p with
    depth := p.depth + 1
    layout := match number with
      | some n => .group n p.layout
      | none => p.layout
    repeatable := true }

end Piece

/-- A group that is open: the parts and alternatives before it, both in reverse, the flags that hold
after it, and the number by which it is remembered. -/
structure Frame where
  pieces : List Piece
  branches : List Piece
  flags : Flags
  number : Option Nat

/-- What has been read: the parts since the last bar and the alternatives before it, both in
reverse, the open groups around, the flags in force, the names of groups, and how many groups are
remembered. -/
structure Parser where
  pieces : List Piece
  branches : List Piece
  frames : List Frame
  flags : Flags
  names : List Chars
  groups : Nat

namespace Parser

def start : Parser := ⟨[], [], [], .initial, [], 0⟩

def push (s : Parser) (p : Piece) : Parser := { s with pieces := p :: s.pieces }

def value (s : Parser) : Piece := .choice (.sequence s.pieces :: s.branches)

def openGroup (s : Parser) (inside : Flags) (captures : Bool) : Parser :=
  { s with
    pieces := []
    branches := []
    frames := ⟨s.pieces, s.branches, s.flags, if captures then some s.groups else none⟩ :: s.frames
    flags := inside
    groups := if captures then s.groups + 1 else s.groups }

def closeGroup (s : Parser) : Option Parser :=
  match s.frames with
  | [] => none
  | f :: frames =>
    some { s with
      pieces := s.value.group f.number :: f.pieces
      branches := f.branches
      frames
      flags := f.flags }

def bar (s : Parser) : Parser :=
  { s with pieces := [], branches := .sequence s.pieces :: s.branches }

/-- Whether the sign stands ahead that makes a repetition match as little as it can, and what
follows. -/
def readGreed (f : Flags) : Chars → Bool × Chars
  | '?' :: rest => (!f.swapGreed, rest)
  | cs => (f.swapGreed, cs)

def repeatLast (s : Parser) (least : Nat) (most : Option Nat) (cs : Chars) :
    Option (Parser × Chars) :=
  match s.pieces with
  | p :: ps =>
    let (lazily, rest) := readGreed s.flags cs
    if p.repeatable then some ({ s with pieces := p.rep least most lazily :: ps }, rest) else none
  | [] => none

def readGroup (s : Parser) (cs : Chars) : Option (Parser × Chars) :=
  match s.flags.pass cs with
  | '?' :: '=' :: _ | '?' :: '!' :: _ | '?' :: '<' :: '=' :: _ | '?' :: '<' :: '!' :: _ => none
  | '?' :: 'P' :: '<' :: rest | '?' :: '<' :: rest =>
    match readName rest with
    | some (name, rest) =>
      if s.names.contains name then none
      else some ({ s.openGroup s.flags true with names := name :: s.names }, rest)
    | none => none
  | '?' :: rest =>
    match readFlags [] false false rest with
    | some (letters, sign, rest) =>
      let flags := letters.foldl (fun f (l, on) => f.set l on) s.flags
      if sign = ':' then some (s.openGroup flags false, rest)
      else if letters.isEmpty then none
      else some ({ s with flags }.push .flags, rest)
    | none => none
  | cs => some (s.openGroup s.flags true, cs)

def readCounts (f : Flags) (cs : Chars) : Option (Nat × Option Nat × Chars) := do
  let cs := f.pass cs
  if cs.isEmpty then none
  let (least, rest) ← f.decimal cs
  let (least, most, rest) ← match rest with
    | ',' :: rest =>
      match f.pass rest with
      | [] => none
      | '\x7d' :: rest => pure (← least, none, '\x7d' :: rest)
      | cs =>
        let least ← least
        let (most, rest) ← f.decimal cs
        pure (least, some (← most), rest)
    | rest => pure (← least, some (← least), rest)
  match rest with
  | '\x7d' :: rest =>
    if most.all (least ≤ ·) then pure (least, most, f.pass rest) else none
  | _ => none

def readPrimitive (s : Parser) (cs : Chars) : Option (Parser × Chars) := do
  let f := s.flags
  match cs with
  | '\\' :: rest =>
    let (p, rest) ← f.escape rest
    match p with
    | .literal c byte => pure (s.push (.ofSet f (← f.literal c byte)), rest)
    | .set set => pure (s.push (.ofSet f set), rest)
    | .look l => pure (s.push (.ofLook l), rest)
  | '.' :: rest =>
    let ends := if f.dotAll then CharSet.empty
      else if f.crlf then .ofRanges [(0x0A, 0x0A), (0x0D, 0x0D)] else .single 0x0A
    if f.unicode then pure (s.push (.ofSet f ends.compl), rest) else none
  | '^' :: rest =>
    pure (s.push (.ofLook (if f.multiLine then .lineStart f.crlf else .textStart)), rest)
  | '$' :: rest =>
    pure (s.push (.ofLook (if f.multiLine then .lineEnd f.crlf else .textEnd)), rest)
  | c :: rest => pure (s.push (.ofSet f (← f.literal c false)), rest)
  | [] => none

def step (s : Parser) (cs : Chars) : Option (Parser × Chars) := do
  match cs with
  | '(' :: rest => s.readGroup rest
  | ')' :: rest => pure (← s.closeGroup, rest)
  | '|' :: rest => pure (s.bar, rest)
  | '[' :: rest =>
    let (level, rest) ← openClass s.flags rest
    let (p, rest) ← readClass s.flags rest.length level [] rest
    pure (s.push { Piece.ofSet s.flags p.set with depth := p.depth }, rest)
  | '?' :: rest => s.repeatLast 0 (some 1) rest
  | '*' :: rest => s.repeatLast 0 none rest
  | '+' :: rest => s.repeatLast 1 none rest
  | '\x7b' :: rest =>
    let (least, most, rest) ← readCounts s.flags rest
    s.repeatLast least most rest
  | cs => s.readPrimitive cs

def run (steps : Nat) (s : Parser) (cs : Chars) : Option Piece :=
  match steps, s.flags.pass cs with
  | _, [] => if s.frames.isEmpty then some s.value else none
  | 0, _ => none
  | steps + 1, cs => do
    let (s, rest) ← s.step cs
    run steps s rest

end Parser

def greatestDepth : Nat := 250

def compile? (pattern : Chars) : Option Expr := do
  let p ← Parser.start.run pattern.length pattern
  if p.depth ≤ greatestDepth && p.layout.fits then some p.expr else none

/-- The expression of a pattern that has to match at the start of a text: the pattern is put in a
group after the sign for the start, as text. -/
def compileAnchored? (pattern : Chars) : Option Expr :=
  compile? ("^(?:".toList ++ pattern ++ [')'])

end LearningMap.Pattern
