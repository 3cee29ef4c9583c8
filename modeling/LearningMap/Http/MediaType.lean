/-!
# Media types

A media type has a main type, a subtype, and parameters with values. JSON is sent as the application
type `json`, or as one whose suffix, the part after the last plus sign, is `json`.
-/

namespace LearningMap.MediaType

def isToken (c : Char) : Bool := c.isAlphanum || "!#$%&'*+-.^_\x60|~".toList.contains c

def isQuoted (c : Char) : Bool := 31 < c.toNat && c.toNat < 127

/-- Where the reading of parameters stands. -/
inductive Place where
  /-- Before a name; blanks are passed over. -/
  | blank
  | name
  | equals
  | value
  /-- Right after the opening quote; a quote there does not close the value. -/
  | opened
  | quoted
  | closed
  deriving DecidableEq

namespace Place

def next? (p : Place) (c : Char) : Option Place :=
  match p with
  | blank => if c = ' ' then some blank else if isToken c then some name else none
  | name => if isToken c then some name else if c = '=' then some equals else none
  | equals => if c = '"' then some opened else if isToken c then some value else none
  | value => if isToken c then some value else if c = ';' then some blank else none
  | opened => if isQuoted c then some quoted else none
  | quoted => if c = '"' then some closed else if isQuoted c then some quoted else none
  | closed => if c = ' ' then some closed else if c = ';' then some blank else none

def complete : Place → Bool
  | blank | equals | value | closed => true
  | name | opened | quoted => false

end Place

def isParameters (cs : List Char) : Bool := (cs.foldlM Place.next? .blank).any Place.complete

/-- Whether a lower-case subtype is that of JSON. Without its suffix it may be `json` as well. -/
def isJsonSubtype (cs : List Char) : Bool :=
  let json := ['j', 's', 'o', 'n']
  let suffix := (cs.reverse.takeWhile (· != '+')).reverse
  let stem := (cs.reverse.dropWhile (· != '+')).reverse.dropLast
  cs == json || !stem.isEmpty && (stem == json || suffix == json)

def isJson (s : String) : Bool :=
  let main := s.toList.takeWhile (· != '/')
  let rest := (s.toList.dropWhile (· != '/')).drop 1
  let sub := rest.takeWhile (· != ';')
  let parameters := (rest.dropWhile (· != ';')).drop 1
  main.map Char.toLower == "application".toList && sub.all isToken
    && isJsonSubtype (sub.map Char.toLower) && isParameters parameters

end LearningMap.MediaType
