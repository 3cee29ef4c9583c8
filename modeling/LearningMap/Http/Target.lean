import LearningMap.Text

/-!
# Request targets

A target is a path with an optional query, a scheme and an authority before a path, or an authority
alone, which has an empty path. What follows a number sign is passed over.
-/

namespace LearningMap

structure Target where
  path : List Char
  /-- Empty when there is none. -/
  query : List Char
  deriving DecidableEq

namespace Target

/-- Whether a character may stand in a path. Some are let through that should be written with a
percent sign. -/
def isPathChar (c : Char) : Bool :=
  let n := c.toNat
  n = 0x21 || n = 0x22 || 0x24 ≤ n && n ≤ 0x3B || n = 0x3D || 0x40 ≤ n && n ≤ 0x5F ||
    0x61 ≤ n && n ≠ 0x7F

def isQueryChar (c : Char) : Bool :=
  let n := c.toNat
  n = 0x21 || 0x24 ≤ n && n ≤ 0x3B || n = 0x3D || 0x3F ≤ n && n ≠ 0x7F

def ofPath? (cs : List Char) : Option Target :=
  let whole := cs.takeWhile (· != '#')
  let (path, query) := Text.splitFirst '?' whole
  if path.all isPathChar && query.all isQueryChar then some ⟨path, query⟩ else none

def isSchemeChar (c : Char) : Bool := c.isAlphanum || "+-.~".toList.contains c

def schemeLimit : Nat := 64

/-- What follows a scheme and its two slashes; the text itself when it has no scheme. A scheme may
be empty. -/
def afterScheme? (cs : List Char) : Option (Bool × List Char) :=
  let scheme := cs.takeWhile isSchemeChar
  match cs.dropWhile isSchemeChar with
  | ':' :: '/' :: '/' :: rest =>
    if schemeLimit < scheme.length then none else some (true, rest)
  | _ => some (false, cs)

/-- Whether a character may stand in an authority, in addition to percent signs. -/
def isAuthorityChar (c : Char) : Bool := c.isAlphanum || "!$&'()*+,-.:;=@[]_~".toList.contains c

structure Authority where
  colons : Nat := 0
  percent : Bool := false
  opened : Bool := false
  closed : Bool := false
  atSign : Bool := false

namespace Authority

/-- One more character. What stands before an at sign or a closing bracket may hold colons and
percent signs. -/
def next? (a : Authority) (c : Char) : Option Authority :=
  let a := { a with atSign := false }
  if c = '%' then some { a with percent := true }
  else if !isAuthorityChar c then none
  else if c = ':' then if 8 ≤ a.colons then none else some { a with colons := a.colons + 1 }
  else if c = '[' then if a.percent || a.opened then none else some { a with opened := true }
  else if c = ']' then
    if !a.opened || a.closed then none
    else some { a with closed := true, colons := 0, percent := false }
  else if c = '@' then some { a with atSign := true, colons := 0, percent := false }
  else some a

def complete (a : Authority) : Bool :=
  a.opened == a.closed && a.colons ≤ 1 && !a.atSign && !a.percent

end Authority

def isAuthority (cs : List Char) : Bool := (cs.foldlM Authority.next? {}).any Authority.complete

def limit : Nat := 65534

def ofText? (s : String) : Option Target :=
  let cs := s.toList
  if limit < (Text.bytes cs).length then none
  else if cs.head? = some '/' || cs = ['*'] then ofPath? cs
  else do
    let (absolute, rest) ← afterScheme? cs
    let authority := rest.takeWhile fun c => !"/?#".toList.contains c
    let after := rest.dropWhile fun c => !"/?#".toList.contains c
    if authority.isEmpty || !isAuthority authority then none
    else if absolute then
      let t ← ofPath? after
      pure (if t.path.isEmpty then { t with path := ['/'] } else t)
    else if after.isEmpty then pure ⟨[], []⟩
    else none

end Target

end LearningMap
