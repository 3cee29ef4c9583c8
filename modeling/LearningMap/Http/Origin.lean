import LearningMap.Http.Request

/-!
# Requests from other origins

A browser may call the server from pages of the allowed origins. Before it calls, it asks by a
request with the method `OPTIONS`, whatever the target.
-/

namespace LearningMap

inductive OriginFault where
  /-- An origin cannot be the value of a header. -/
  | invalid (origin : String)
  /-- A wildcard stands among the origins. -/
  | wildcard
  deriving DecidableEq

def OriginFault.message : OriginFault → String
  | invalid origin => s!"Invalid CORS origin '{origin}': failed to parse header value"
  | wildcard =>
    "Wildcard origin (\x60*\x60) cannot be passed to \x60AllowOrigin::list\x60. " ++
      "Use \x60AllowOrigin::any()\x60 instead"

structure Origins where
  allowed : List String
  deriving DecidableEq

namespace Origins

def ofList (origins : List String) : Except OriginFault Origins :=
  match origins.find? (!Headers.isValue ·) with
  | some origin => .error (.invalid origin)
  | none => if origins.contains "*" then .error .wildcard else .ok ⟨origins⟩

def headers (o : Origins) (r : Request) : Headers :=
  let allowed := (r.headers.value? "origin").filter o.allowed.contains
  ("access-control-allow-credentials", "true") ::
    (allowed.map fun origin => ("access-control-allow-origin", origin)).toList

def permissions : Headers :=
  [("access-control-allow-headers", "content-type,authorization"),
    ("access-control-allow-methods", "GET,POST"), ("access-control-max-age", "3600")]

end Origins

end LearningMap
