import LearningMap.Json.Printer
import LearningMap.Text
import LearningMap.Token.Base64
import LearningMap.Token.Claims
import LearningMap.Token.Digest
import LearningMap.Token.Header
import LearningMap.Token.Validity
import LearningMap.Word

/-!
# Signed tokens

A token carries claims about a member and is signed under a secret. It has three segments with
points between them, each in base 64: a header that names the algorithm, the claims, and the
signature of the text of the two. A token is checked from the outside in: its form, the header, the
signature, the claims, and last whether it has expired or is meant for others.
-/

namespace LearningMap

namespace Token

def segment (j : Json) : List Char := Base64.encode (Text.bytes j.chars)

def sign (secret : String) (message : List Char) : List Char :=
  Base64.encode (Hmac.sha256 (Text.bytes secret.toList) (Text.bytes message))

def ofClaims (secret : String) (c : Claims) : String :=
  let message := segment TokenHeader.standard.toJson ++ '.' :: segment c.toJson
  String.ofList (message ++ '.' :: sign secret message)

/-- The token of a member, made at a second, valid for some minutes. -/
def issue (secret : String) (minutes now : Int) (tokenId : String) (member : Id) (role : String) :
    Except Overflow String := do
  let expiry ← Word.add now (← Word.mul minutes 60)
  pure (ofClaims secret ⟨member, role, expiry, now, tokenId⟩)

def splitLast : List Char → Option (List Char × List Char)
  | [] => none
  | c :: cs =>
    match splitLast cs with
    | some (before, after) => some (c :: before, after)
    | none => if c = '.' then some ([], cs) else none

def open? {α : Type} (read : Json.Reader α) (segment : List Char) : Except TokenFault α :=
  match Base64.decode segment with
  | none => .error .base64
  | some bs => (Json.Reader.ofSymbols read (Text.symbols bs)).mapError fun _ => .json

def header (token : String) : Except TokenFault TokenHeader :=
  match (splitLast token.toList).bind fun (message, _) => splitLast message with
  | none => .error .segments
  | some (first, _) => open? TokenHeader.reader first

/-- The claims of a token that is accepted at a second. -/
def validate (secret : String) (now : Int) (token : String) : Except TokenFault Claims :=
  match splitLast token.toList with
  | none => .error .segments
  | some (message, signature) =>
    match splitLast message with
    | none => .error .segments
    | some (first, payload) => do
      let header ← open? TokenHeader.reader first
      if header.algorithm ≠ TokenHeader.standard.algorithm then throw .algorithm
      if signature ≠ sign secret message then throw .signature
      let claims ← open? Claims.reader payload
      let validity ← open? Validity.reader payload
      validity.check now
      pure claims

end Token

end LearningMap
