/-!
# Why a token is not accepted

The faults of tokens, each with one name.
-/

namespace LearningMap

inductive TokenFault where
  | segments
  | base64
  | json
  | algorithm
  | signature
  | missing (claim : String)
  | expired
  | audience
  deriving DecidableEq

def TokenFault.name : TokenFault → String
  | segments => "InvalidToken"
  | base64 => "Base64"
  | json => "Json"
  | algorithm => "InvalidAlgorithm"
  | signature => "InvalidSignature"
  | missing claim => s!"MissingRequiredClaim(\"{claim}\")"
  | expired => "ExpiredSignature"
  | audience => "InvalidAudience"

end LearningMap
