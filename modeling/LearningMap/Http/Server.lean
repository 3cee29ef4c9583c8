import LearningMap.Bus
import LearningMap.Http.Command
import LearningMap.Http.Origin
import LearningMap.Http.Reply

/-!
# The server

A server answers requests one after another. It runs what they command on its store, and publishes
what happened once that is stored. When the store does not answer, everything that needs it fails.
-/

namespace LearningMap

/-- What a command led to: the response, and the events to publish. -/
structure Outcome where
  status : Nat
  data : Json
  events : List Event

def Command.run (now : Timestamp) : Command → Action Outcome
  | .submit member question submission => do
    let o ← Action.submit now member question submission
    pure ⟨201, o.toJson, o.events⟩
  | .review reviewer answer decision => do
    let o ← Action.review now reviewer answer decision
    pure ⟨200, o.toJson, o.events⟩
  | .viewMap member map seat => do
    let nodes ← Action.viewMap member map seat
    pure ⟨200, .list (fun (n, status) => statusRow n status) nodes, []⟩
  | .viewNode member node seat => do
    pure ⟨200, (← Action.viewNode member node seat).toJson, []⟩

structure Server where
  secret : String
  origins : Origins
  /-- None when the store does not answer. -/
  store : Option Store
  bus : Bus Event

/-- What comes with a request from outside: when it is handled, and a name for it in case it has
none. -/
structure Arrival where
  time : Timestamp
  second : Int
  requestId : String

namespace Server

def version : String := "0.1.0"

def health (s : Server) : Json :=
  let healthy := s.store.isSome
  .obj [("status", .str (if healthy then "ok" else "degraded")), ("version", .str version),
    ("db_healthy", .bool healthy), ("event_subscribers", .int s.bus.receiverCount)]

def perform (s : Server) (now : Timestamp) (c : Command) : Response × Server :=
  match s.store with
  | none => (.ofFailure (.database .poolTimedOut), s)
  | some store =>
    match c.run now store with
    | (.error failure, store) => (.ofFailure failure, { s with store := some store })
    | (.ok o, store) =>
      (.of o.status (.json (envelope o.data)),
        { s with store := some store, bus := s.bus.publishAll o.events })

def serve (s : Server) (a : Arrival) (route : Route) (r : Request) : Response × Server :=
  match r.command route s.secret a.second with
  | .error response => (response, s)
  | .ok none => (.of 200 (.json s.health), s)
  | .ok (some command) => s.perform a.time command

def allow (route : Route) : Headers := [("allow", ",".intercalate route.methods)]

def dispatch (s : Server) (a : Arrival) (r : Request) : Response × Server :=
  match Route.ofPath? r.target.path with
  | none => (.bare 404, s)
  | some route =>
    if route.methods.contains r.method then
      let (response, s) := s.serve a route r
      (if r.method = "HEAD" then response.withoutContent else response, s)
    else ((Response.bare 405).withHeaders (allow route), s)

/-- The name of a request, which its response repeats. -/
def requestId (a : Arrival) (r : Request) : Headers :=
  [("x-request-id", (r.headers.value? "x-request-id").getD a.requestId)]

def handle (s : Server) (a : Arrival) (r : Request) : Response × Server :=
  if r.method = "OPTIONS" then
    let route := Route.ofPath? r.target.path
    ((Response.bare 200).withHeaders
      (s.origins.headers r ++ Origins.permissions ++ (route.map allow).getD []), s)
  else
    let (response, s) := s.dispatch a r
    (response.withHeaders (requestId a r ++ s.origins.headers r), s)

end Server

end LearningMap
