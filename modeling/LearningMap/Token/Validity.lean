import LearningMap.Json.Passage
import LearningMap.Json.Record
import LearningMap.Token.Fault

/-!
# Validity

Some claims decide whether a token is accepted now and here. They are read on their own, and reading
goes on behind a value that is not what it should be, as far as it comes to stand there.
-/

namespace LearningMap

structure Validity where
  /-- The expiry, unless it is no number from zero on. -/
  expiry : Option Int := none
  addressed : Bool := false

namespace Validity

def count : Json.Reader (Option Int)
  | .num (.ok (.whole n)) => .ok (if 0 ≤ n then some n else none)
  | _ => .ok none

def isAddress : Json.Draft → Bool
  | .str (.ok _) => true
  | .arr items _ => items.all (· matches .str (.ok _))
  | _ => false

def depth : Nat := 126

/-- Passes over a value that is kept if it can be; whether it is kept. -/
def pass : Json.Reader Bool := fun d =>
  match d.passage depth with
  | .kept => .ok true
  | .behind => .ok false
  | .within => .error .malformed

/-- Passes over what should be a number; of lists and objects only over empty ones. -/
def passNumber : Json.Reader Bool
  | .arr (_ :: _) _ => .error .mismatch
  | .obj (_ :: _) _ => .error .mismatch
  | d => pass d

def address : Json.Reader Bool := fun d => do pure ((← pass d) && isAddress d)

def reader : Json.Reader Validity :=
  open Json.Reader in
  record
    [field "exp" count fun v (p : Validity) => { p with expiry := v },
      field "nbf" passNumber fun _ p => p,
      field "sub" pass fun _ p => p,
      field "iss" pass fun _ p => p,
      field "aud" address fun v p => { p with addressed := v }]
    {} some

def leeway : Int := 60

/-- A token needs an expiry that is not past, and must not be meant for somebody. -/
def check (v : Validity) (now : Int) : Except TokenFault Unit :=
  match v.expiry with
  | none => .error (.missing "exp")
  | some expiry =>
    if expiry < now - leeway then .error .expired
    else if v.addressed then .error .audience
    else .ok ()

end Validity

end LearningMap
