import LearningMap.Double.Shortest
import LearningMap.Json.Basic

/-!
# Writing JSON

A value is written without blanks. In a string the quote, the backslash and the control characters
are escaped, five of the latter by a letter of their own; every other character stands for itself.
A number that is no whole number is written with the fewest digits that it can be read from.
-/

namespace LearningMap.Json

def hexDigit (n : Nat) : Char :=
  if n < 10 then Char.ofNat ('0'.toNat + n) else Char.ofNat ('a'.toNat + (n - 10))

def escapeChar (c : Char) : List Char :=
  match c with
  | '"' => ['\\', '"']
  | '\\' => ['\\', '\\']
  | '\x08' => ['\\', 'b']
  | '\x0c' => ['\\', 'f']
  | '\n' => ['\\', 'n']
  | '\r' => ['\\', 'r']
  | '\t' => ['\\', 't']
  | c =>
    if c.toNat < 0x20 then
      ['\\', 'u', '0', '0', hexDigit (c.toNat / 16), hexDigit (c.toNat % 16)]
    else [c]

def quote (cs : List Char) : List Char := '"' :: (cs.flatMap escapeChar ++ ['"'])

def wholeDigits : Int → List Char
  | .ofNat n => Nat.toDigits 10 n
  | .negSucc n => '-' :: Nat.toDigits 10 (n + 1)

/-- How many digits a number may have before its point, unless it is written with an exponent. -/
def widestWhole : Int := 16

/-- How many zeros may follow the point of a number before its first digit, unless it is written
with an exponent. -/
def mostZeros : Int := 4

/-- The characters of a decimal number. There is a digit on either side of a point, and no point in
a number with an exponent and a single digit. -/
def decimalChars (d : Decimal) : List Char :=
  let digits := Nat.toDigits 10 d.digits
  let point := digits.length + d.exponent
  if 0 ≤ d.exponent ∧ point ≤ widestWhole then
    digits ++ List.replicate d.exponent.toNat '0' ++ ['.', '0']
  else if 0 < point ∧ point ≤ widestWhole then
    digits.take point.toNat ++ '.' :: digits.drop point.toNat
  else if -mostZeros ≤ point ∧ point ≤ 0 then
    '0' :: '.' :: (List.replicate (-point).toNat '0' ++ digits)
  else
    let rest := digits.drop 1
    digits.take 1 ++ (if rest.isEmpty then [] else '.' :: rest) ++ 'e' :: wholeDigits (point - 1)

namespace Number

def render : Number → List Char
  | whole n => wholeDigits n
  | double negative x => (if negative then ['-'] else []) ++ decimalChars x.shortest

end Number

def chars : Json → List Char
  | .null => ['n', 'u', 'l', 'l']
  | .bool true => ['t', 'r', 'u', 'e']
  | .bool false => ['f', 'a', 'l', 's', 'e']
  | .num n => n.render
  | .str s => quote s.toList
  | .arr items => '[' :: (separated items ++ [']'])
  | .obj members => '\x7b' :: (separatedMembers members ++ ['\x7d'])
where
  separated : List Json → List Char
    | [] => []
    | [j] => j.chars
    | j :: js => j.chars ++ ',' :: separated js
  separatedMembers : List (String × Json) → List Char
    | [] => []
    | [(k, j)] => quote k.toList ++ ':' :: j.chars
    | (k, j) :: ms => quote k.toList ++ ':' :: j.chars ++ ',' :: separatedMembers ms

def render (j : Json) : String := String.ofList j.chars

end LearningMap.Json
