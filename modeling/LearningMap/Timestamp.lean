import LearningMap.Unicode.Class

/-!
# Timestamps

A timestamp is a moment of UTC in the form `2026-03-01T12:00:00.250Z`. Nothing here computes with
spans of time, so a timestamp is kept as its text, and a moment has one text. Reading is more
generous than writing: numbers may lack leading zeros, blanks may stand around the marks, the date
may be parted from the time by a blank, and the time may be that of another zone.
-/

namespace LearningMap

/-- A moment of UTC, kept as text. -/
structure Timestamp where
  text : String
  deriving DecidableEq, Inhabited

namespace Timestamp

def firstYear : Int := -262143

def lastYear : Int := 262142

def daysInMonth (year : Int) (month : Nat) : Nat :=
  if month = 2 then
    if year % 4 = 0 && (year % 100 != 0 || year % 400 = 0) then 29 else 28
  else if month = 4 || month = 6 || month = 9 || month = 11 then 30
  else 31

structure Date where
  year : Int
  month : Nat
  day : Nat
  deriving DecidableEq

def Date.isValid (d : Date) : Bool :=
  firstYear ≤ d.year && d.year ≤ lastYear && 1 ≤ d.month && d.month ≤ 12 && 1 ≤ d.day &&
    d.day ≤ daysInMonth d.year d.month

def Date.next (d : Date) : Date :=
  if d.day < daysInMonth d.year d.month then ⟨d.year, d.month, d.day + 1⟩
  else if d.month < 12 then ⟨d.year, d.month + 1, 1⟩
  else ⟨d.year + 1, 1, 1⟩

def Date.previous (d : Date) : Date :=
  if 1 < d.day then ⟨d.year, d.month, d.day - 1⟩
  else if 1 < d.month then ⟨d.year, d.month - 1, daysInMonth d.year (d.month - 1)⟩
  else ⟨d.year - 1, 12, 31⟩

def dayMinutes : Int := 24 * 60

/-- A moment: its day, the minutes of the day before it, and its second with the digits of the
fraction. A second numbered 60 is a leap second. -/
structure Moment where
  date : Date
  minutes : Int
  second : Nat
  fraction : List Char

/-- The moment that a clock shows which is `offset` minutes, less than a day, behind. -/
def Moment.back (m : Moment) (offset : Int) : Moment :=
  let minutes := m.minutes - offset
  if minutes < 0 then { m with date := m.date.previous, minutes := minutes + dayMinutes }
  else if dayMinutes ≤ minutes then { m with date := m.date.next, minutes := minutes - dayMinutes }
  else { m with minutes }

def padded (width n : Nat) : List Char :=
  let digits := Nat.toDigits 10 n
  List.replicate (width - digits.length) '0' ++ digits

/-- A year as it is written: with four digits or more, and a sign outside of those that four digits
can tell. -/
def yearText (year : Int) : List Char :=
  let sign := if year < 0 then ['-'] else if 9999 < year then ['+'] else []
  sign ++ padded 4 year.natAbs

/-- The fraction of a second as it is written: with no, three, six or nine digits, the fewest that
hold it; what follows the ninth is left out. -/
def fractionText (digits : List Char) : List Char :=
  let nine := (digits ++ List.replicate 9 '0').take 9
  match [0, 3, 6].find? fun n => (nine.drop n).all (· = '0') with
  | some 0 => []
  | some n => '.' :: nine.take n
  | none => '.' :: nine

def ofMoment (m : Moment) : Timestamp :=
  let date := yearText m.date.year ++ '-' :: padded 2 m.date.month ++ '-' :: padded 2 m.date.day
  let time := padded 2 (m.minutes / 60).toNat ++ ':' :: padded 2 (m.minutes % 60).toNat ++
    ':' :: padded 2 m.second
  ⟨String.ofList (date ++ 'T' :: time ++ fractionText m.fraction ++ ['Z'])⟩

def passBlanks (cs : List Char) : List Char := cs.dropWhile Unicode.whiteSpace.contains

def valueOf (digits : List Char) : Nat :=
  digits.foldl (fun n c => n * 10 + (c.toNat - '0'.toNat)) 0

/-- Reads a number with at least one digit; at most `width` digits are taken. -/
def readNumber? (width : Nat) (cs : List Char) : Option (Nat × List Char) :=
  let digits := (cs.take width).takeWhile Char.isDigit
  if digits.isEmpty then none else some (valueOf digits, cs.drop digits.length)

/-- Reads a year: up to four digits, or a sign and any number of digits. -/
def readYear? (cs : List Char) : Option (Int × List Char) :=
  match passBlanks cs with
  | '+' :: cs => do
    let (n, rest) ← readNumber? cs.length cs
    pure (n, rest)
  | '-' :: cs => do
    let (n, rest) ← readNumber? cs.length cs
    pure (-n, rest)
  | cs => do
    let (n, rest) ← readNumber? 4 cs
    pure (n, rest)

def readMarked? (mark : Char) (cs : List Char) : Option (Nat × List Char) :=
  match passBlanks cs with
  | c :: rest => if c = mark then readNumber? 2 (passBlanks rest) else none
  | [] => none

def readFraction? : List Char → Option (List Char × List Char)
  | '.' :: rest =>
    let digits := rest.takeWhile Char.isDigit
    if digits.isEmpty then none else some (digits, rest.drop digits.length)
  | cs => some ([], cs)

def readShift? : List Char → Option (Int × List Char)
  | h₁ :: h₂ :: rest =>
    match rest.dropWhile fun c => c = ':' || Unicode.whiteSpace.contains c with
    | m₁ :: m₂ :: rest =>
      let shift := valueOf [h₁, h₂] * 60 + valueOf [m₁, m₂]
      if [h₁, h₂, m₁, m₂].all Char.isDigit && m₁ < '6' && shift < dayMinutes then
        some (shift, rest)
      else none
    | _ => none
  | _ => none

/-- Reads a zone, as the minutes that its clocks are ahead of UTC: the letter Z, the word UTC, or a
sign and a shift. -/
def readZone? : List Char → Option (Int × List Char)
  | '+' :: rest => readShift? rest
  | '-' :: rest => do
    let (shift, rest) ← readShift? rest
    pure (-shift, rest)
  | '\u2212' :: rest => do
    let (shift, rest) ← readShift? rest
    pure (-shift, rest)
  | c :: rest =>
    if (c :: rest.take 2).map Char.toLower = ['u', 't', 'c'] then some (0, rest.drop 2)
    else if c = 'Z' || c = 'z' then some (0, rest)
    else none
  | [] => none

def isParting (c : Char) : Bool := c = 'T' || c = 't' || c = ' '

def ofText? (s : String) : Option Timestamp := do
  let (year, rest) ← readYear? s.toList
  let (month, rest) ← readMarked? '-' rest
  let (day, rest) ← readMarked? '-' rest
  guard (rest.head?.any isParting)
  let (hour, rest) ← readNumber? 2 (passBlanks (rest.drop 1))
  let (minute, rest) ← readMarked? ':' rest
  let (second, rest) ← readMarked? ':' rest
  let (fraction, rest) ← readFraction? rest
  let (offset, rest) ← readZone? (passBlanks rest)
  guard (passBlanks rest).isEmpty
  let date : Date := ⟨year, month, day⟩
  guard (date.isValid && hour < 24 && minute < 60 && second ≤ 60)
  let moment := Moment.back ⟨date, hour * 60 + minute, second, fraction⟩ offset
  guard moment.date.isValid
  pure (ofMoment moment)

end Timestamp

end LearningMap
