import LearningMap.Json.Draft

/-!
# Descriptions of keys

A description of a key is an object. It tells the kind of the key, what a key of that kind consists
of, and perhaps what the key is for; other members are passed over. None of these may be told twice,
so a description is judged as it is written.
-/

namespace LearningMap.KeyDescription

open Json (Draft)

def isText : Draft → Bool
  | .str (.ok _) => true
  | _ => false

def isTexts : Draft → Bool
  | .arr items _ => items.all isText
  | _ => false

/-- Whether a value is one of some words, alone or as the only member of an object. -/
def isWord (words : List String) : Draft → Bool
  | .str (.ok word) => words.contains word
  | .obj [(some word, .null)] _ => words.contains word
  | _ => false

def algorithms : List String :=
  ["HS256", "HS384", "HS512", "ES256", "ES384", "RS256", "RS384", "RS512", "PS256", "PS384",
    "PS512", "EdDSA", "RSA1_5", "RSA-OAEP", "RSA-OAEP-256"]

def isAlgorithm : Draft → Bool
  | .obj [(some word, .obj [] _)] _ => algorithms.contains word
  | d => isWord algorithms d

abbrev Rule := String × (Draft → Bool)

/-- What a key may tell whatever its kind; null tells nothing. -/
def common : List Rule :=
  [("use", isText), ("key_ops", isTexts), ("alg", isAlgorithm), ("kid", isText), ("x5u", isText),
    ("x5c", isTexts), ("x5t", isText), ("x5t#S256", isText)]

def isCurve : Draft → Bool := isWord ["P-256", "P-384", "P-521", "Ed25519"]

/-- What a key has to tell, for each kind. -/
def kinds : List (List Rule) :=
  [[("kty", isWord ["EC"]), ("crv", isCurve), ("x", isText), ("y", isText)],
    [("kty", isWord ["RSA"]), ("n", isText), ("e", isText)],
    [("kty", isWord ["oct"]), ("k", isText)],
    [("kty", isWord ["OKP"]), ("crv", isCurve), ("x", isText)]]

def values (name : String) (members : List (Option String × Draft)) : List Draft :=
  (members.filter (·.1 == some name)).map (·.2)

/-- Whether there is one member by a rule, and no second one. -/
def obeys (members : List (Option String × Draft)) (rule : Rule) : Bool :=
  match values rule.1 members with
  | [value] => rule.2 value
  | _ => false

/-- Whether a member that follows a rule is missing, null, or there once. -/
def mayObey (members : List (Option String × Draft)) (rule : Rule) : Bool :=
  match values rule.1 members with
  | [] => true
  | [.null] => true
  | _ => obeys members rule

def isValid : Draft → Bool
  | .obj members _ =>
    common.all (mayObey members) && kinds.any fun rules => rules.all (obeys members)
  | _ => false

end LearningMap.KeyDescription
