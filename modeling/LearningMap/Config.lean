import LearningMap.Text
import LearningMap.Unicode.Class
import LearningMap.Whole

/-!
# Configuration

The server is configured by the variables of its environment. All but the secret that signs tokens
have defaults. Variables are read in a fixed order and the first fault ends the reading.
-/

namespace LearningMap

inductive WordType where
  | u16
  | u64
  | i64
  deriving DecidableEq

namespace WordType

def name : WordType → String
  | u16 => "u16"
  | u64 => "u64"
  | i64 => "i64"

def least : WordType → Int
  | i64 => -0x8000000000000000
  | _ => 0

def greatest : WordType → Int
  | u16 => 0xFFFF
  | u64 => 0xFFFFFFFFFFFFFFFF
  | i64 => 0x7FFFFFFFFFFFFFFF

end WordType

structure Config where
  host : String
  port : Nat
  origins : List String
  requestTimeout : Nat
  shutdownTimeout : Nat
  secret : String
  /-- For how many minutes a token is valid. -/
  tokenMinutes : Int
  deriving DecidableEq

inductive ConfigFault where
  | badNumber (variableName : String) (type : WordType) (fault : WholeFault)
  | secretMissing
  | secretEmpty
  deriving DecidableEq

def ConfigFault.message : ConfigFault → String
  | badNumber name type fault =>
    s!"{name} must be a valid {type.name}: ParseIntError \x7b kind: {fault.name} \x7d"
  | secretMissing => "JWT_SECRET must be set in the environment: NotPresent"
  | secretEmpty => "JWT_SECRET must not be empty"

namespace Config

def trim (cs : List Char) : List Char :=
  let blank := Unicode.whiteSpace.contains
  ((cs.dropWhile blank).reverse.dropWhile blank).reverse

/-- The origins in a list with commas, without blanks around them and without blank ones. -/
def parseOrigins (s : String) : List String :=
  ((Text.pieces ',' s.toList).map trim).filterMap fun o =>
    if o.isEmpty then none else some (String.ofList o)

/-- The number in a variable, or in the default text for it. -/
def number (env : String → Option String) (name : String) (type : WordType) (default : String) :
    Except ConfigFault Int :=
  (Whole.read type.least type.greatest ((env name).getD default)).mapError (.badNumber name type)

def signingSecret (env : String → Option String) : Except ConfigFault String :=
  match env "JWT_SECRET" with
  | none => .error .secretMissing
  | some "" => .error .secretEmpty
  | some s => .ok s

def ofEnv (env : String → Option String) : Except ConfigFault Config := do
  let host := (env "HOST").getD "0.0.0.0"
  let port ← number env "PORT" .u16 "3000"
  let origins := parseOrigins ((env "CORS_ORIGINS").getD "http://localhost:5173")
  let requestTimeout ← number env "REQUEST_TIMEOUT_SECS" .u64 "30"
  let shutdownTimeout ← number env "SHUTDOWN_TIMEOUT_SECS" .u64 "30"
  let secret ← signingSecret env
  let tokenMinutes ← number env "JWT_ACCESS_EXPIRY_MINS" .i64 "15"
  pure ⟨host, port.toNat, origins, requestTimeout.toNat, shutdownTimeout.toNat, secret,
    tokenMinutes⟩

end Config

end LearningMap
