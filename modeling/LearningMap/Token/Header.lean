import LearningMap.Json.Record
import LearningMap.Token.Key

/-!
# Headers of tokens

A header names the algorithm of the signature. It may tell more, which has to have the right shape
and is not used.
-/

namespace LearningMap

structure TokenHeader where
  algorithm : String
  type : Option String
  deriving DecidableEq

namespace TokenHeader

def algorithms : List String :=
  ["HS256", "HS384", "HS512", "ES256", "ES384", "RS256", "RS384", "RS512", "PS256", "PS384",
    "PS512", "EdDSA"]

structure Partial where
  algorithm : Option String := none
  type : Option String := none

/-- The name of an algorithm, alone or as the only member of an object. -/
def algorithmName : Json.Reader String := fun d => do
  let name ← match d with
    | .obj [(some name, .null)] true => pure name
    | d => Json.Reader.text d
  if algorithms.contains name then pure name else .error .mismatch

/-- How many lists and objects may lie in each other in what a header holds. -/
def depth : Nat := 126

def key : Json.Reader Unit := fun d =>
  if (d.toJson? depth).isSome && KeyDescription.isValid d then .ok ()
  else .error (Json.Reader.fault d)

def reader : Json.Reader TokenHeader :=
  open Json.Reader in
  record
    [field "typ" (option text) fun v (p : Partial) => { p with type := v },
      field "alg" algorithmName fun v p => { p with algorithm := some v },
      field "cty" (option text) fun _ p => p,
      field "jku" (option text) fun _ p => p,
      field "jwk" (option key) fun _ p => p,
      field "kid" (option text) fun _ p => p,
      field "x5u" (option text) fun _ p => p,
      field "x5c" (option (list text)) fun _ p => p,
      field "x5t" (option text) fun _ p => p,
      field "x5t#S256" (option text) fun _ p => p]
    {} fun p => p.algorithm.map (⟨·, p.type⟩)

def standard : TokenHeader := ⟨"HS256", some "JWT"⟩

def toJson (h : TokenHeader) : Json :=
  .obj ((h.type.map fun t => ("typ", Json.str t)).toList ++ [("alg", .str h.algorithm)])

end TokenHeader

end LearningMap
