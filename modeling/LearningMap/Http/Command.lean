import LearningMap.Http.Body
import LearningMap.Http.MediaType
import LearningMap.Http.Percent
import LearningMap.Http.Response
import LearningMap.Http.Route
import LearningMap.Token.Signed
import LearningMap.Whole

/-!
# What a request commands

A request is admitted, or answered at once without a look at the store. First comes the token of the
caller, then the role where the route needs one, then the identifier in the path, and last the query
or the body.
-/

namespace LearningMap

inductive Command where
  | submit (member question : Id) (submission : Submission)
  | review (reviewer answer : Id) (review : Review)
  | viewMap (member map : Id) (seat : Option Id)
  | viewNode (member node : Id) (seat : Option Id)

structure Caller where
  member : Id
  role : String
  deriving DecidableEq

namespace Request

def refusal {α : Type} (cause : Refusal) : Except Response α := .error (.ofFailure (.refused cause))

/-- The text of a header that starts with the word for bearers, without that word. -/
def bearer? (header : String) : Option String :=
  let word := "Bearer ".toList
  if word.isPrefixOf header.toList then some (String.ofList (header.toList.drop word.length))
  else none

def caller (r : Request) (secret : String) (second : Int) : Except Response Caller :=
  match r.headers.ascii? "authorization" with
  | none => refusal (.unauthorized "Missing Authorization header")
  | some header =>
    match bearer? header with
    | none => refusal (.unauthorized "Invalid Authorization format. Expected: Bearer <token>")
    | some token =>
      match Token.validate secret second token with
      | .error _ => refusal (.unauthorized "Invalid or expired token")
      | .ok claims => .ok ⟨claims.subject, claims.role⟩

def reviewerRole : String := "admin"

def reviewer (r : Request) (secret : String) (second : Int) : Except Response Caller := do
  let caller ← r.caller secret second
  if caller.role = reviewerRole then pure caller else refusal (.forbidden "Admin role required")

def pathId (place : List Char) : Except Response Id :=
  match (Percent.text? place).bind Id.ofText? with
  | some id => .ok id
  | none => .error (.of 400 (.text "Invalid URL"))

def pairs (query : List Char) : List (Option String × Option String) :=
  ((Text.pieces '&' query).filter (!·.isEmpty)).map fun piece =>
    let (name, value) := Text.splitFirst '=' piece
    (Percent.formText? name, Percent.formText? value)

/-- The seat that is named in the query of a request. It must not be named twice. -/
def seat (r : Request) : Except Response (Option Id) :=
  match (pairs r.target.query).filter (·.1 == some "map_play_member_id") with
  | [] => .ok none
  | [(_, value)] =>
    match value.bind Id.ofText? with
    | some id => .ok (some id)
    | none => .error bad
  | _ => .error bad
where
  bad : Response := .of 400 (.text "Failed to deserialize query string")

def bodyLimit : Nat := 2097152

/-- What is in the body of a request, which has to be JSON. -/
def content {α : Type} (r : Request) (read : Json.Reader α) : Except Response α :=
  if !(r.headers.ascii? "content-type").any MediaType.isJson then
    .error (.of 415 (.text "Expected request with \x60Content-Type"))
  else if bodyLimit < r.body.utf8ByteSize then
    .error (.of 413 (.text "Failed to buffer the request body"))
  else
    match Json.Reader.ofText read r.body with
    | .ok value => .ok value
    | .error .malformed => .error (.of 400 (.text "Failed to parse the request body as JSON"))
    | .error .mismatch =>
      .error (.of 422 (.text "Failed to deserialize the JSON body into the target type"))

/-- Admits a request to a route, or answers it. The health of the server can be asked by anyone and
commands nothing. -/
def command (r : Request) (route : Route) (secret : String) (second : Int) :
    Except Response (Option Command) :=
  match route with
  | .health => pure none
  | .submission place => do
    let caller ← r.caller secret second
    let question ← pathId place
    pure (some (.submit caller.member question (← r.content Submission.reader)))
  | .review place => do
    let caller ← r.reviewer secret second
    let answer ← pathId place
    pure (some (.review caller.member answer (← r.content Review.reader)))
  | .map place => do
    let caller ← r.caller secret second
    let map ← pathId place
    pure (some (.viewMap caller.member map (← r.seat)))
  | .node place => do
    let caller ← r.caller secret second
    let node ← pathId place
    pure (some (.viewNode caller.member node (← r.seat)))

end Request

end LearningMap
