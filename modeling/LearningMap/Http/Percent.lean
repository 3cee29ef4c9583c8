import LearningMap.Text

/-!
# Percent signs

In a request target a percent sign and two hexadecimal digits stand for a byte. A percent sign that
is not followed by two digits stands for itself.
-/

namespace LearningMap.Percent

def hexValue? (b : UInt8) : Option UInt8 :=
  if 0x30 ≤ b ∧ b ≤ 0x39 then some (b - 0x30)
  else if 0x41 ≤ b ∧ b ≤ 0x46 then some (b - 0x37)
  else if 0x61 ≤ b ∧ b ≤ 0x66 then some (b - 0x57)
  else none

def byte? (high low : UInt8) : Option UInt8 := do pure ((← hexValue? high) * 16 + (← hexValue? low))

/-- The bytes that bytes with percent signs stand for. -/
def decode : List UInt8 → List UInt8
  | [] => []
  | p :: high :: low :: rest =>
    if p = 0x25 then
      match byte? high low with
      | some b => b :: decode rest
      | none => p :: decode (high :: low :: rest)
    else p :: decode (high :: low :: rest)
  | b :: rest => b :: decode rest

def text? (cs : List Char) : Option String := Text.ofBytes? (decode (Text.bytes cs))

/-- The text that a part of a form stands for, where a blank is written as a plus sign. -/
def formText? (cs : List Char) : Option String :=
  text? (cs.map fun c => if c = '+' then ' ' else c)

end LearningMap.Percent
