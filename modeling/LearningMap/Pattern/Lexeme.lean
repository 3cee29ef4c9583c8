import LearningMap.Pattern.Expr

/-!
# The small parts of a pattern

Readers for the parts that hold no expression: blanks and comments, numbers, escapes, flags, names.
Each takes the flags in force and the characters ahead, and gives what it read with the characters
after it, or nothing when the pattern is not valid there.
-/

namespace LearningMap.Pattern

open Unicode (CharSet)

abbrev Chars := List Char

structure Flags where
  ignoreCase : Bool
  multiLine : Bool
  dotAll : Bool
  crlf : Bool
  unicode : Bool
  /-- Blanks are passed over, and `#` starts a comment. -/
  verbose : Bool
  /-- Repetitions match as little as they can, unless a question mark follows. -/
  swapGreed : Bool
  deriving DecidableEq

def Flags.initial : Flags := ⟨false, false, false, false, true, false, false⟩

def isBlank (c : Char) : Bool := Unicode.whiteSpace.contains c

def afterComment (cs : Chars) : Chars := (cs.dropWhile (· ≠ '\n')).drop 1

def passBlanks (cs : Chars) : Chars :=
  match cs with
  | [] => []
  | c :: rest =>
    if isBlank c then passBlanks rest
    else if c = '#' then passBlanks (afterComment rest)
    else cs
termination_by cs.length
decreasing_by
  · simp
  · have : (rest.dropWhile (· ≠ '\n')).length ≤ rest.length :=
      (List.dropWhile_sublist _).length_le
    simp only [afterComment, List.length_drop, List.length_cons]
    omega

def Flags.pass (f : Flags) (cs : Chars) : Chars := if f.verbose then passBlanks cs else cs

theorem length_passBlanks_le (cs : Chars) : (passBlanks cs).length ≤ cs.length := by
  fun_induction passBlanks cs with
  | case1 => simp
  | case2 c rest _ ih => simp only [List.length_cons]; omega
  | case3 rest _ ih =>
    have : (rest.dropWhile (· ≠ '\n')).length ≤ rest.length :=
      (List.dropWhile_sublist _).length_le
    simp only [afterComment, List.length_drop, List.length_cons] at ih ⊢
    omega
  | case4 => simp

theorem Flags.length_pass_le (f : Flags) (cs : Chars) : (f.pass cs).length ≤ cs.length := by
  unfold Flags.pass
  split
  · exact length_passBlanks_le cs
  · exact Nat.le_refl _

def Flags.takeWhile (f : Flags) (test : Char → Bool) (cs : Chars) : Chars × Chars :=
  match cs with
  | [] => ([], [])
  | c :: rest =>
    if test c then
      let (taken, rest) := f.takeWhile test (f.pass rest)
      (c :: taken, rest)
    else ([], cs)
termination_by cs.length
decreasing_by
  have := f.length_pass_le rest
  simp only [List.length_cons]
  omega

def greatestCount : Nat := 0xFFFFFFFF

/-- A decimal number with blanks around it: nothing if it is too large, and none inside where no
digit stands. -/
def Flags.decimal (f : Flags) (cs : Chars) : Option (Option Nat × Chars) :=
  let (digits, rest) := f.takeWhile Char.isDigit (cs.dropWhile isBlank)
  let rest := (f.takeWhile isBlank rest).2
  if digits.isEmpty then some (none, rest)
  else
    let n := digits.foldl (fun n c => n * 10 + (c.toNat - '0'.toNat)) 0
    if n ≤ greatestCount then some (some n, rest) else none

def hexDigit? (c : Char) : Option Nat :=
  if '0' ≤ c ∧ c ≤ '9' then some (c.toNat - '0'.toNat)
  else if 'a' ≤ c ∧ c ≤ 'f' then some (c.toNat - 'a'.toNat + 10)
  else if 'A' ≤ c ∧ c ≤ 'F' then some (c.toNat - 'A'.toNat + 10)
  else none

def charOf? (n : Nat) : Option Char := if n.isValidChar then some (Char.ofNat n) else none

def charOfHex? (digits : Chars) : Option Char := do
  if digits.isEmpty then none
  let values ← digits.mapM hexDigit?
  charOf? (values.foldl (fun n d => n * 16 + d) 0)

def Flags.hexDigits (f : Flags) : Nat → Chars → Option (Chars × Chars)
  | 0, cs => some ([], cs)
  | n + 1, c :: rest =>
    if (hexDigit? c).isSome then do
      let (digits, rest) ← f.hexDigits n (f.pass rest)
      pure (c :: digits, rest)
    else none
  | _ + 1, [] => none

/-- The character that looks ahead for a sign: the first after blanks, where these are passed over.
A number sign does not start a comment here. It is only passed over itself, once. -/
def Flags.peek? (f : Flags) (cs : Chars) : Option Char :=
  if f.verbose then
    match cs.dropWhile isBlank with
    | '#' :: rest => (rest.dropWhile isBlank).head?
    | rest => rest.head?
  else cs.head?

inductive Primitive where
  /-- A character. One that is written as two hexadecimal digits is a byte where Unicode is off. -/
  | literal (c : Char) (byte : Bool)
  | set (s : CharSet)
  | look (l : Look)

def Flags.hexEscape (f : Flags) (letter : Char) (cs : Chars) : Option (Primitive × Chars) := do
  match f.pass cs with
  | '\x7b' :: rest =>
    let (digits, rest) := f.takeWhile (· ≠ '\x7d') (f.pass rest)
    match rest with
    | '\x7d' :: rest => pure (.literal (← charOfHex? digits) false, f.pass rest)
    | _ => none
  | cs =>
    let (digits, rest) ← f.hexDigits (if letter = 'x' then 2 else if letter = 'u' then 4 else 8) cs
    pure (.literal (← charOfHex? digits) (letter = 'x'), rest)

/-- Splits a text at a first character that is one of two, or at a first pair. -/
def splitValue (name : Chars) : Option (Chars × Bool × Chars) :=
  match cut "!=".toList name with
  | some (property, value) => some (property, true, value)
  | none =>
    match cut ":".toList name with
    | some (property, value) => some (property, false, value)
    | none => (cut "=".toList name).map fun (property, value) => (property, false, value)
where
  cut (mark : Chars) : Chars → Option (Chars × Chars)
    | [] => none
    | c :: cs =>
      if mark.isPrefixOf (c :: cs) then some ([], (c :: cs).drop mark.length)
      else (cut mark cs).map fun (before, value) => (c :: before, value)

def Flags.fold (f : Flags) (s : CharSet) : CharSet :=
  if !f.ignoreCase then s
  else if f.unicode then Unicode.CaseFolding.close s
  else Unicode.CaseFolding.closeAscii s

/-- The complement of a set. It is not valid in ASCII, where it would hold bytes that are no
text. -/
def Flags.negate (f : Flags) (negated : Bool) (s : CharSet) : Option CharSet :=
  if !negated then some s else if f.unicode then some s.compl else none

def Flags.unicodeClass (f : Flags) (negated : Bool) (cs : Chars) : Option (CharSet × Chars) := do
  let ((set, negated), rest) ← match f.pass cs with
    | '\x7b' :: rest =>
      let (name, rest) := f.takeWhile (· ≠ '\x7d') (f.pass rest)
      match rest with
      | '\x7d' :: rest =>
        match splitValue name with
        | some (property, differs, value) =>
          pure ((← Unicode.valued? property value, negated != differs), rest)
        | none => pure ((← Unicode.named? name, negated), rest)
      | _ => none
    | '\\' :: _ => none
    | c :: rest => pure ((← Unicode.named? [c], negated), rest)
    | [] => none
  if f.unicode then pure (← f.negate negated (f.fold set), rest) else none

def Flags.perlClass? (f : Flags) (c : Char) : Option (Option CharSet) :=
  let pick (unicode ascii : CharSet) := if f.unicode then unicode else ascii
  match c with
  | 'd' => some (some (pick Unicode.decimalDigit Unicode.asciiDigit))
  | 's' => some (some (pick Unicode.whiteSpace Unicode.asciiWhiteSpace))
  | 'w' => some (some (pick Unicode.wordChar Unicode.asciiWordChar))
  | 'D' => some (f.negate true Unicode.decimalDigit)
  | 'S' => some (f.negate true Unicode.whiteSpace)
  | 'W' => some (f.negate true Unicode.wordChar)
  | _ => none

/-- The kind of word boundary that a name between braces after `\b` asks for. When the braces do not
hold letters, they are left to be read as a repetition. -/
def Flags.wordBoundary (f : Flags) (cs : Chars) : Option (WordTest × Chars) :=
  match cs with
  | '\x7b' :: rest =>
    let isNameChar (c : Char) := ('A' ≤ c && c ≤ 'Z') || ('a' ≤ c && c ≤ 'z') || c == '-'
    match f.pass rest with
    | [] => none
    | c :: rest =>
      if !isNameChar c then some (.boundary, cs)
      else
        let (name, rest) := f.takeWhile isNameChar (c :: rest)
        match rest with
        | '\x7d' :: rest =>
          match String.ofList name with
          | "start" => some (.start, rest)
          | "end" => some (.finish, rest)
          | "start-half" => some (.startHalf, rest)
          | "end-half" => some (.finishHalf, rest)
          | _ => none
        | _ => none
  | _ => some (.boundary, cs)

def control? : Char → Option Char
  | 'a' => some '\x07'
  | 'f' => some '\x0c'
  | 't' => some '\t'
  | 'n' => some '\n'
  | 'r' => some '\r'
  | 'v' => some '\x0b'
  | _ => none

def Flags.escape (f : Flags) (cs : Chars) : Option (Primitive × Chars) :=
  match cs with
  | [] => none
  | c :: rest =>
    if c.isDigit then none
    else if c = 'x' ∨ c = 'u' ∨ c = 'U' then
      f.hexEscape c rest
    else if c = 'p' ∨ c = 'P' then
      (f.unicodeClass (c = 'P') rest).map fun (s, rest) => (.set s, rest)
    else match f.perlClass? c with
    | some set => set.map fun s => (.set s, rest)
    | none =>
      match control? c with
      | some d => some (.literal d false, rest)
      | none =>
        if c = 'A' then some (.look .textStart, rest)
        else if c = 'z' then some (.look .textEnd, rest)
        else if c = 'b' then
          (f.wordBoundary rest).map fun (test, rest) => (.look (.word test f.unicode), rest)
        else if c = 'B' then some (.look (.word .notBoundary f.unicode), rest)
        else if c = '<' then some (.look (.word .start f.unicode), rest)
        else if c = '>' then some (.look (.word .finish f.unicode), rest)
        else if c.toNat < 0x80 ∧ ¬c.isAlpha then some (.literal c false, rest)
        else none

/-- The characters that a literal matches. A byte has to be ASCII, for no other is a character. -/
def Flags.literal (f : Flags) (c : Char) (byte : Bool) : Option CharSet :=
  if byte ∧ !f.unicode ∧ c.toNat ≥ 0x80 then none else some (f.fold (.single c.toNat))

def Flags.classLiteral (f : Flags) (c : Char) : Option CharSet :=
  if f.unicode ∨ c.toNat < 0x80 then some (.single c.toNat) else none

inductive FlagLetter where
  | ignoreCase
  | multiLine
  | dotAll
  | swapGreed
  | unicode
  | crlf
  | verbose
  deriving DecidableEq

def FlagLetter.ofChar? : Char → Option FlagLetter
  | 'i' => some ignoreCase
  | 'm' => some multiLine
  | 's' => some dotAll
  | 'U' => some swapGreed
  | 'u' => some unicode
  | 'R' => some crlf
  | 'x' => some verbose
  | _ => none

def Flags.set (f : Flags) (letter : FlagLetter) (on : Bool) : Flags :=
  match letter with
  | .ignoreCase => { f with ignoreCase := on }
  | .multiLine => { f with multiLine := on }
  | .dotAll => { f with dotAll := on }
  | .swapGreed => { f with swapGreed := on }
  | .unicode => { f with unicode := on }
  | .crlf => { f with crlf := on }
  | .verbose => { f with verbose := on }

/-- Flag letters up to a colon or a closing parenthesis: the letters switched on and off, the sign
that ended them, and what follows. No letter may come twice, nor the minus sign, and a letter has to
follow it. -/
def readFlags (seen : List (FlagLetter × Bool)) (off justOff : Bool) :
    Chars → Option (List (FlagLetter × Bool) × Char × Chars)
  | [] => none
  | c :: rest =>
    if c = ':' ∨ c = ')' then if justOff then none else some (seen.reverse, c, rest)
    else if c = '-' then if off then none else readFlags seen true true rest
    else
      match FlagLetter.ofChar? c with
      | some l =>
        if seen.any (·.1 = l) then none else readFlags ((l, !off) :: seen) off false rest
      | none => none

def isNameChar (first : Bool) (c : Char) : Bool :=
  c == '_' || Unicode.nameLetter.contains c ||
    (!first && (c == '.' || c == '[' || c == ']' || Unicode.nameNumber.contains c))

def readName (cs : Chars) : Option (Chars × Chars) :=
  let name := cs.takeWhile (· ≠ '>')
  match name, cs.drop name.length with
  | c :: more, '>' :: rest =>
    if isNameChar true c && more.all (isNameChar false) then some (name, rest) else none
  | _, _ => none

end LearningMap.Pattern
