import LearningMap.Json.Record

/-!
# Claims

The claims of a token tell which member it is for and in which role, and from when to when it is
valid.
-/

namespace LearningMap

structure Claims where
  subject : Id
  role : String
  /-- The second from which on the token is no longer valid. -/
  expiry : Int
  issued : Int
  tokenId : String
  deriving DecidableEq

namespace Claims

structure Partial where
  subject : Option Id := none
  role : Option String := none
  expiry : Option Int := none
  issued : Option Int := none
  tokenId : Option String := none

def reader : Json.Reader Claims :=
  open Json.Reader in
  record
    [field "sub" id fun v (p : Partial) => { p with subject := some v },
      field "role" text fun v p => { p with role := some v },
      field "exp" id fun v p => { p with expiry := some v },
      field "iat" id fun v p => { p with issued := some v },
      field "jti" text fun v p => { p with tokenId := some v }]
    {} fun p => do pure ⟨← p.subject, ← p.role, ← p.expiry, ← p.issued, ← p.tokenId⟩

def toJson (c : Claims) : Json :=
  .obj [("sub", .int c.subject), ("role", .str c.role), ("exp", .int c.expiry),
    ("iat", .int c.issued), ("jti", .str c.tokenId)]

end Claims

end LearningMap
