import LearningMap.Unicode.Age
import LearningMap.Unicode.Boundary
import LearningMap.Unicode.CaseFolding
import LearningMap.Unicode.Script

/-!
# Character classes

The sets that programs ask for most, and the look-up of a set by name.
-/

namespace LearningMap.Unicode

/-- The property of white space. Blanks are looked for at every turn, so its ranges are given. -/
def whiteSpace : CharSet :=
  ⟨[(0x09, 0x0D), (0x20, 0x20), (0x85, 0x85), (0xA0, 0xA0), (0x1680, 0x1680), (0x2000, 0x200A),
    (0x2028, 0x2029), (0x202F, 0x202F), (0x205F, 0x205F), (0x3000, 0x3000)]⟩

def alphabetic : CharSet := (Property.find? "alphabetic").getD .empty

def numeric : CharSet := Category.ofMembers ["Nd", "Nl", "No"]

def decimalDigit : CharSet := Category.ofMembers ["Nd"]

/-- Characters of words: letters, marks, decimal digits, connectors and joiners. -/
def wordChar : CharSet :=
  (alphabetic.union (Category.ofMembers ["Mn", "Mc", "Me", "Nd", "Pc"])).union
    ((Property.find? "joincontrol").getD .empty)

/-- The letters that version 17.0 adds, as distances and lengths. -/
def newLetters : CharSet := ⟨Property.Entry.ranges ⟨[], [],
  ["2191,1 972,1 127,1 39665,2 2,1 1,1 28,1 24910,26 1387,3 50,2 3172,8 584,44 20676,25 2,25 286,5",
   "6145,8 1289,22 97,115 22733,31 1,22 8,2 53306,6 5986,12 21762,4298"]⟩⟩

/-- The numbers that version 17.0 adds, as distances and lengths. -/
def newNumbers : CharSet := ⟨Property.Entry.ranges ⟨[], [], ["73184,10 21002,3"]⟩⟩

def nameLetter : CharSet := alphabetic.union newLetters

def nameNumber : CharSet := numeric.union newNumbers

def asciiDigit : CharSet := .ofRanges [(0x30, 0x39)]

def asciiWordChar : CharSet := .ofRanges [(0x30, 0x39), (0x41, 0x5A), (0x5F, 0x5F), (0x61, 0x7A)]

def asciiWhiteSpace : CharSet := .ofRanges [(0x09, 0x0D), (0x20, 0x20)]

/-- A name as the tables have it: ASCII in lower case, without blanks, hyphens, underscores and a
leading "is". Only the name `isc` keeps it, which would otherwise be a category. -/
def normalizeName (name : List Char) : String :=
  let stripped := match name with
    | i :: s :: rest => if i.toLower = 'i' ∧ s.toLower = 's' then (true, rest) else (false, name)
    | _ => (false, name)
  let kept := (stripped.2.filter fun c => c ≠ ' ' ∧ c ≠ '_' ∧ c ≠ '-' ∧ c.toNat < 0x80).map
    Char.toLower
  String.ofList (if stripped.1 ∧ kept = ['c'] then ['i', 's', 'c'] else kept)

def named? (name : List Char) : Option CharSet :=
  let name := normalizeName name
  Property.find? name <|> Category.find? name <|> Script.find? name

def valued? (property value : List Char) : Option CharSet :=
  let value := normalizeName value
  let property := normalizeName property
  if ["gc", "generalcategory"].contains property then Category.find? value
  else if ["sc", "script"].contains property then Script.find? value
  else if ["scx", "scriptextensions"].contains property then Script.findExtension? value
  else if property = "age" then Age.find? value
  else if ["gcb", "graphemeclusterbreak"].contains property then Boundary.grapheme? value
  else if ["wb", "wordbreak"].contains property then Boundary.word? value
  else if ["sb", "sentencebreak"].contains property then Boundary.sentence? value
  else none

def asciiNamed? (name : List Char) : Option CharSet :=
  match String.ofList name with
  | "alnum" => some (.ofRanges [(0x30, 0x39), (0x41, 0x5A), (0x61, 0x7A)])
  | "alpha" => some (.ofRanges [(0x41, 0x5A), (0x61, 0x7A)])
  | "ascii" => some (.ofRanges [(0x00, 0x7F)])
  | "blank" => some (.ofRanges [(0x09, 0x09), (0x20, 0x20)])
  | "cntrl" => some (.ofRanges [(0x00, 0x1F), (0x7F, 0x7F)])
  | "digit" => some asciiDigit
  | "graph" => some (.ofRanges [(0x21, 0x7E)])
  | "lower" => some (.ofRanges [(0x61, 0x7A)])
  | "print" => some (.ofRanges [(0x20, 0x7E)])
  | "punct" => some (.ofRanges [(0x21, 0x2F), (0x3A, 0x40), (0x5B, 0x60), (0x7B, 0x7E)])
  | "space" => some asciiWhiteSpace
  | "upper" => some (.ofRanges [(0x41, 0x5A)])
  | "word" => some asciiWordChar
  | "xdigit" => some (.ofRanges [(0x30, 0x39), (0x41, 0x46), (0x61, 0x66)])
  | _ => none

end LearningMap.Unicode
