import LearningMap.Http.Target

/-!
# Requests

A request has a method, a target, headers and a body. The names of headers do not tell upper from
lower case; of several headers with one name the first counts.
-/

namespace LearningMap

abbrev Headers := List (String × String)

namespace Headers

def isName (s : String) : Bool :=
  !s.isEmpty && s.toList.all fun c => c.isAlphanum || "!#$%&'*+-.^_\x60|~".toList.contains c

/-- Whether a text may be the value of a header: it has no control characters but tabs. -/
def isValue (s : String) : Bool :=
  s.toList.all fun c => 32 ≤ c.toNat && c.toNat ≠ 127 || c = '\t'

def value? (hs : Headers) (name : String) : Option String :=
  (hs.find? fun h => h.1.toLower == name).map (·.2)

/-- The value of a header, if it is nothing but visible characters of ASCII, blanks and tabs. -/
def ascii? (hs : Headers) (name : String) : Option String :=
  (hs.value? name).filter fun v => v.toList.all fun c => c.toNat < 127

end Headers

structure Request where
  method : String
  target : Target
  headers : Headers
  body : String

def Request.ofParts? (method target : String) (headers : Headers) (body : String) :
    Option Request :=
  match Target.ofText? target with
  | none => none
  | some t =>
    if Headers.isName method && headers.all fun h => Headers.isName h.1 && Headers.isValue h.2 then
      some ⟨method, t, headers, body⟩
    else none

end LearningMap
