import LearningMap.Json.Basic
import LearningMap.Text

/-!
# Drafts: what a text says before its first fault

A reader that expects a certain shape stops at the first thing that is wrong, be it a value of
another shape or a slip of the grammar. To tell which comes first, a text is read into a draft: the
values up to the first slip. A list or object that the slip cuts short is left open, and what is cut
inside it is broken.

Reading is one pass over the characters. `Scanner.feed` takes one character; it knows how far the
current string, number or word has come and what the grammar allows next. What is read may hold
bytes that belong to no character: they may stand in a string, which is then no text.
-/

namespace LearningMap.Json

inductive Draft where
  | null
  | bool (b : Bool)
  | num (n : Except Halt Number)
  /-- Without a text when an escape names half a surrogate pair, or a byte belongs to no
  character. -/
  | str (s : Except Halt String)
  | arr (items : List Draft) (closed : Bool)
  /-- A member may have no name: what stands for it is no text. -/
  | obj (members : List (Option String × Draft)) (closed : Bool)
  | broken

inductive Unit16 where
  | char (c : Char)
  | byte
  | code (n : Nat)

namespace Unit16

/-- The text of a string literal. A pair of surrogates is one character, half a pair is none: a
reader gives up at the second half, or behind what stands in its place, which may be the closing
quote. Bytes are checked when all of the literal is read. -/
def decode : List Unit16 → Except Halt (List Char)
  | [] => .ok []
  | .char c :: rest => (decode rest).map (c :: ·)
  | .byte :: rest => (decode rest).bind fun _ => .error .behind
  | .code n :: rest =>
    if 0xD800 ≤ n ∧ n < 0xDC00 then
      match rest with
      | .code m :: rest =>
        if 0xDC00 ≤ m ∧ m < 0xE000 then
          (decode rest).map (Char.ofNat (0x10000 + (n - 0xD800) * 0x400 + (m - 0xDC00)) :: ·)
        else .error .within
      | [] => .error .behind
      | _ => .error .within
    else if 0xDC00 ≤ n ∧ n < 0xE000 then .error .within
    else (decode rest).map (Char.ofNat n :: ·)

end Unit16

/-- A list or object that is being read. Items and members are held in reverse. -/
inductive Frame where
  | arr (items : List Draft)
  | obj (members : List (Option String × Draft)) (key : Option (Option String))

inductive Expect where
  | value
  | valueOrClose
  | key
  | keyOrClose
  | colon
  | commaOrClose
  | nothing
  deriving DecidableEq

/-- How far the current token has come. Characters are held in reverse. -/
inductive Mode where
  | between
  | text (units : List Unit16)
  | escape (units : List Unit16)
  | code (units : List Unit16) (due value : Nat)
  | number (state : NumberState) (literal : List Char)
  | word (rest : List Char) (value : Draft)

/-- The state of reading: the token at hand, the open lists and objects from the innermost out, what
may come next, and the whole value once it is complete. -/
structure Scanner where
  mode : Mode
  frames : List Frame
  expect : Expect
  result : Option Draft

namespace Scanner

def start : Scanner := ⟨.between, [], .value, none⟩

def place (s : Scanner) (d : Draft) : Scanner :=
  match s.frames with
  | [] => { s with mode := .between, expect := .nothing, result := some d }
  | .arr items :: fs =>
    { s with mode := .between, expect := .commaOrClose, frames := .arr (d :: items) :: fs }
  | .obj ms (some k) :: fs =>
    { s with mode := .between, expect := .commaOrClose, frames := .obj ((k, d) :: ms) none :: fs }
  | .obj ms none :: fs => { s with mode := .between, frames := .obj ms none :: fs }

def wantsValue (s : Scanner) : Bool := s.expect = .value || s.expect = .valueOrClose

def wantsKey (s : Scanner) : Bool := s.expect = .key || s.expect = .keyOrClose

def close (s : Scanner) (bracket : Char) : Option Scanner :=
  match bracket, s.frames with
  | ']', .arr items :: fs =>
    if s.expect = .valueOrClose ∨ s.expect = .commaOrClose then
      some ({ s with frames := fs }.place (.arr items.reverse true))
    else none
  | '}', .obj ms none :: fs =>
    if s.expect = .keyOrClose ∨ s.expect = .commaOrClose then
      some ({ s with frames := fs }.place (.obj ms.reverse true))
    else none
  | _, _ => none

def comma (s : Scanner) : Option Scanner :=
  if s.expect ≠ .commaOrClose then none
  else match s.frames with
    | .arr _ :: _ => some { s with expect := .value }
    | .obj _ _ :: _ => some { s with expect := .key }
    | [] => none

def feedBetween (s : Scanner) (c : Char) : Option Scanner :=
  if c = ' ' ∨ c = '\n' ∨ c = '\t' ∨ c = '\r' then some s
  else if c = ']' ∨ c = '\x7d' then s.close c
  else if c = ',' then s.comma
  else if c = ':' then if s.expect = .colon then some { s with expect := .value } else none
  else if c = '"' then
    if s.wantsValue || s.wantsKey then some { s with mode := .text [] } else none
  else if !s.wantsValue then none
  else if c = '[' then some { s with frames := .arr [] :: s.frames, expect := .valueOrClose }
  else if c = '\x7b' then
    some { s with frames := .obj [] none :: s.frames, expect := .keyOrClose }
  else if c = '-' then some { s with mode := .number .minus ['-'] }
  else if c = '0' then some { s with mode := .number .zero ['0'] }
  else if c.isDigit then some { s with mode := .number .whole [c] }
  else if c = 't' then some { s with mode := .word ['r', 'u', 'e'] (.bool true) }
  else if c = 'f' then some { s with mode := .word ['a', 'l', 's', 'e'] (.bool false) }
  else if c = 'n' then some { s with mode := .word ['u', 'l', 'l'] .null }
  else none

def endText (s : Scanner) (units : List Unit16) : Option Scanner :=
  let text := (Unit16.decode units.reverse).map String.ofList
  if s.wantsKey then
    match s.frames with
    | .obj ms _ :: fs =>
      let frames := .obj ms (some text.toOption) :: fs
      some { s with mode := .between, expect := .colon, frames }
    | _ => none
  else some (s.place (.str text))

def escaped? : Char → Option Char
  | '"' => some '"'
  | '\\' => some '\\'
  | '/' => some '/'
  | 'b' => some '\x08'
  | 'f' => some '\x0c'
  | 'n' => some '\n'
  | 'r' => some '\r'
  | 't' => some '\t'
  | _ => none

def hexDigit? (c : Char) : Option Nat :=
  if '0' ≤ c ∧ c ≤ '9' then some (c.toNat - '0'.toNat)
  else if 'a' ≤ c ∧ c ≤ 'f' then some (c.toNat - 'a'.toNat + 10)
  else if 'A' ≤ c ∧ c ≤ 'F' then some (c.toNat - 'A'.toNat + 10)
  else none

def feedChar (s : Scanner) (c : Char) : Option Scanner :=
  match s.mode with
  | .between => s.feedBetween c
  | .text units =>
    if c = '"' then s.endText units
    else if c = '\\' then some { s with mode := .escape units }
    else if c.toNat < 0x20 then none
    else some { s with mode := .text (.char c :: units) }
  | .escape units =>
    if c = 'u' then some { s with mode := .code units 4 0 }
    else (escaped? c).map fun e => { s with mode := .text (.char e :: units) }
  | .code units due value =>
    (hexDigit? c).map fun d =>
      let value := value * 16 + d
      if due ≤ 1 then { s with mode := .text (.code value :: units) }
      else { s with mode := .code units (due - 1) value }
  | .number state literal =>
    match state.next? c with
    | some state => some { s with mode := .number state (c :: literal) }
    | none =>
      if state.complete && !(state = .zero && c.isDigit) then
        (s.place (.num (Number.ofLiteral literal.reverse))).feedBetween c
      else none
  | .word rest value =>
    match rest with
    | [d] => if c = d then some (s.place value) else none
    | d :: rest => if c = d then some { s with mode := .word rest value } else none
    | [] => none

def feedByte (s : Scanner) : Option Scanner :=
  match s.mode with
  | .text units => some { s with mode := .text (.byte :: units) }
  | _ => none

def feed (s : Scanner) : Option Char → Option Scanner
  | some c => s.feedChar c
  | none => s.feedByte

/-- The draft of a text that ends, or is no longer understood, in a state: what is open stays open,
and the token at hand is broken. -/
def abandon (s : Scanner) : Draft :=
  match s.result with
  | some d => d
  | none =>
    let broken := s.wantsValue || s.mode matches .text _ | .escape _ | .code _ _ _ | .number _ _
      | .word _ _
    wrap s.frames (if broken && !s.wantsKey then some .broken else none)
where
  wrap : List Frame → Option Draft → Draft
    | [], last => last.getD .broken
    | .arr items :: fs, last => wrap fs (some (.arr (last.toList ++ items).reverse false))
    | .obj ms (some k) :: fs, last =>
      wrap fs (some (.obj ((k, last.getD .broken) :: ms).reverse false))
    | .obj ms none :: fs, _ => wrap fs (some (.obj ms.reverse false))

def settle (s : Scanner) : Scanner :=
  match s.mode with
  | .number state literal =>
    if state.complete then s.place (.num (Number.ofLiteral literal.reverse)) else s
  | _ => s

def finish (s : Scanner) : Draft × Bool :=
  let s := s.settle
  match s.mode, s.result with
  | .between, some d => (d, true)
  | _, _ => (s.abandon, false)

/-- The draft of a text that is no longer understood at a character. A number before it is whole,
unless a digit follows its leading zero. -/
def stop (s : Scanner) (c : Option Char) : Draft :=
  match s.mode with
  | .number .zero _ => if c.any Char.isDigit then s.abandon else s.settle.abandon
  | _ => s.settle.abandon

def run (s : Scanner) : List (Option Char) → Draft × Bool
  | [] => s.finish
  | c :: cs =>
    match s.feed c with
    | some s => run s cs
    | none => (s.stop c, false)

end Scanner

/-- The draft of characters, among bytes that belong to none, and whether they are free of slips of
the grammar. -/
def Draft.ofSymbols (symbols : List (Option Char)) : Draft × Bool := Scanner.start.run symbols

def Draft.ofText (text : String) : Draft × Bool := ofSymbols (text.toList.map some)

def lastOfEach : List (String × Json) → List (String × Json)
  | (k, v) :: (l, w) :: ms =>
    if k = l then lastOfEach ((l, w) :: ms) else (k, v) :: lastOfEach ((l, w) :: ms)
  | ms => ms

def byName (members : List (String × Json)) : List (String × Json) :=
  lastOfEach (members.mergeSort fun a b => a.1 ≤ b.1)

/-- The value of a draft, if nothing in it is broken or open and no list or object lies deeper than
`depth`. The members of objects are put into order. -/
def Draft.toJson? : Nat → Draft → Option Json
  | _, .null => some .null
  | _, .bool b => some (.bool b)
  | _, .num n => n.toOption.map .num
  | _, .str s => s.toOption.map .str
  | 0, .arr _ _ => none
  | 0, .obj _ _ => none
  | depth + 1, .arr items closed => if closed then (all depth items).map .arr else none
  | depth + 1, .obj members closed =>
    if closed then (allMembers depth members).map (.obj ∘ byName) else none
  | _, .broken => none
where
  all (depth : Nat) : List Draft → Option (List Json)
    | [] => some []
    | d :: ds => do
      let j ← toJson? depth d
      let js ← all depth ds
      pure (j :: js)
  allMembers (depth : Nat) : List (Option String × Draft) → Option (List (String × Json))
    | [] => some []
    | (k, d) :: ds => do
      let k ← k
      let j ← toJson? depth d
      let js ← allMembers depth ds
      pure ((k, j) :: js)

end LearningMap.Json
