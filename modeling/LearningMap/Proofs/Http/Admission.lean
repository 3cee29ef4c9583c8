import LearningMap.Proofs.Http.Serving
import LearningMap.Proofs.Token.Signing

/-!
# Who is admitted

A request to a guarded route is barred when its caller is not known, or is not allowed what the
route is for. That is decided by the secret, the clock and the request, before the path, the query
and the body are read and before the store is asked. So all that a barred caller learns is why.
-/

namespace LearningMap

def Response.Tells (response other : Response) : Prop :=
  response.status = other.status ∧ response.content = other.content

theorem Headers.value?_cons_of_toLower {key name value : String} {hs : Headers}
    (same : key.toLower = name) : value? ((key, value) :: hs) name = some value := by
  simp only [value?, List.find?_cons, same, beq_self_eq_true, Option.map_some]

theorem Headers.value?_cons_of_ne {key name value : String} {hs : Headers}
    (other : (key.toLower == name) = false) : value? ((key, value) :: hs) name = value? hs name := by
  simp only [value?, List.find?_cons, other]

namespace Request

/-- A request has a path that leads to a route, and a method of that route. -/
def Asks (r : Request) (route : Route) : Prop :=
  Route.ofPath? r.target.path = some route ∧ route.methods.contains r.method = true

instance (r : Request) (route : Route) : Decidable (r.Asks route) :=
  inferInstanceAs (Decidable (_ ∧ _))

/-- A request bears a token that is accepted at a second, and that makes certain claims. -/
def Bears (r : Request) (secret : String) (second : Int) (claims : Claims) : Prop :=
  ∃ header token, r.headers.ascii? "authorization" = some header ∧
    bearer? header = some token ∧ Token.validate secret second token = .ok claims

/-- A request to a route is barred, and what the problem is. -/
inductive Barred (r : Request) (secret : String) (second : Int) (route : Route) : Problem → Prop
  | missing (nothing : r.headers.ascii? "authorization" = none) :
      r.Barred secret second route ⟨401, "UNAUTHORIZED", "Missing Authorization header"⟩
  | malformed {header : String} (found : r.headers.ascii? "authorization" = some header)
      (no_token : bearer? header = none) :
      r.Barred secret second route
        ⟨401, "UNAUTHORIZED", "Invalid Authorization format. Expected: Bearer <token>"⟩
  | rejected {header token : String} {fault : TokenFault}
      (found : r.headers.ascii? "authorization" = some header) (bearer : bearer? header = some token)
      (invalid : Token.validate secret second token = .error fault) :
      r.Barred secret second route ⟨401, "UNAUTHORIZED", "Invalid or expired token"⟩
  | role {place : List Char} {claims : Claims} (reviews : route = .review place)
      (bears : r.Bears secret second claims) (other : claims.role ≠ reviewerRole) :
      r.Barred secret second route ⟨403, "FORBIDDEN", "Admin role required"⟩

variable {r : Request} {secret : String} {second : Int} {route : Route}

theorem Bears.caller_eq {claims : Claims} (bears : r.Bears secret second claims) :
    r.caller secret second = .ok ⟨claims.subject, claims.role⟩ := by
  obtain ⟨header, token, found, bearer, valid⟩ := bears
  simp only [caller, found, bearer, valid]

theorem bears_ofClaims {claims : Claims}
    (borne : r.headers.value? "authorization" = some ("Bearer " ++ Token.ofClaims secret claims))
    (accepted : Token.validate secret second (Token.ofClaims secret claims) = .ok claims) :
    r.Bears secret second claims := by
  refine ⟨"Bearer " ++ Token.ofClaims secret claims, _, ?found, ?bearer, accepted⟩
  case found =>
    rw [Headers.ascii?, borne, Option.filter_eq_some_iff]
    refine ⟨rfl, ?_⟩
    rw [String.toList_append, List.all_append, Token.ascii_ofClaims]
    decide
  case bearer =>
    have word : "Bearer ".toList.isPrefixOf
        ("Bearer " ++ Token.ofClaims secret claims).toList = true := by
      rw [String.toList_append, List.isPrefixOf_iff_prefix]
      exact List.prefix_append _ _
    simp only [bearer?, word, if_true]
    rw [String.toList_append, List.drop_left, String.ofList_toList]

/-- A request is barred from a route unless it bears a token that is accepted, and one of a reviewer
where the route is for reviews. -/
theorem barred_or_bears (r : Request) (secret : String) (second : Int) (route : Route) :
    (∃ p, r.Barred secret second route p) ∨ ∃ claims, r.Bears secret second claims ∧
      ∀ place, route = .review place → claims.role = reviewerRole := by
  cases found : r.headers.ascii? "authorization" with
  | none => exact .inl ⟨_, .missing found⟩
  | some header =>
    cases bearer : bearer? header with
    | none => exact .inl ⟨_, .malformed found bearer⟩
    | some token =>
      cases valid : Token.validate secret second token with
      | error fault => exact .inl ⟨_, .rejected found bearer valid⟩
      | ok claims =>
        have bears : r.Bears secret second claims := ⟨header, token, found, bearer, valid⟩
        by_cases forbidden : ∃ place, route = .review place ∧ claims.role ≠ reviewerRole
        · obtain ⟨place, reviews, other⟩ := forbidden
          exact .inl ⟨_, .role reviews bears other⟩
        · refine .inr ⟨claims, bears, fun place reviews => ?_⟩
          by_contra other
          exact forbidden ⟨place, reviews, other⟩

theorem command_of_caller_error (guarded : route ≠ .health) {response : Response}
    (unknown : r.caller secret second = .error response) :
    r.command route secret second = .error response := by
  cases route with
  | health => exact absurd rfl guarded
  | submission place => simp only [command, unknown]; rfl
  | review place => simp only [command, reviewer, unknown]; rfl
  | map place => simp only [command, unknown]; rfl
  | node place => simp only [command, unknown]; rfl

theorem Barred.command_eq (guarded : route ≠ .health) {p : Problem}
    (barred : r.Barred secret second route p) :
    r.command route secret second = .error (.ofProblem p) := by
  cases barred with
  | missing nothing =>
    refine command_of_caller_error guarded ?_
    simp only [caller, nothing]
    rfl
  | malformed found no_token =>
    refine command_of_caller_error guarded ?_
    simp only [caller, found, no_token]
    rfl
  | rejected found bearer invalid =>
    refine command_of_caller_error guarded ?_
    simp only [caller, found, bearer, invalid]
    rfl
  | role reviews bears other =>
    subst reviews
    have reviewer : r.reviewer secret second = refusal (.forbidden "Admin role required") := by
      rw [reviewer, bears.caller_eq]
      exact if_neg other
    simp only [command, reviewer]
    rfl

end Request

namespace Server

variable {v w : Server} {a b : Arrival} {r : Request} {route : Route}

theorem handle_of_asks (asks : r.Asks route) :
    v.handle a r =
      ((if r.method = "HEAD" then (v.serve a route r).1.withoutContent
        else (v.serve a route r).1).withHeaders
          (requestId a r ++ (v.serve a route r).2.origins.headers r),
        (v.serve a route r).2) := by
  obtain ⟨leads, own⟩ := asks
  have no_options : r.method ≠ "OPTIONS" := by
    rintro options
    rw [options] at own
    cases route <;> simp [Route.methods] at own
  rw [handle, if_neg no_options]
  simp only [dispatch, leads, own, if_true]

theorem handle_of_barred (asks : r.Asks route) (guarded : route ≠ .health) {p : Problem}
    (barred : r.Barred v.secret a.second route p) :
    (v.handle a r).1.Tells
        (if r.method = "HEAD" then (Response.ofProblem p).withoutContent else .ofProblem p) ∧
      (v.handle a r).2 = v := by
  have served : v.serve a route r = (.ofProblem p, v) := by
    simp only [serve, barred.command_eq guarded]
  rw [handle_of_asks asks, served]
  exact ⟨⟨rfl, rfl⟩, rfl⟩

/-- Barred callers learn and change nothing. Two servers with one secret, whatever is stored in
either and whether it can be read at all, tell the same to a barred request at one second: why it is
barred, or as much of that as the method allows. Both stay as they were. -/
theorem barred_learn_and_change_nothing (secret : v.secret = w.secret)
    (clock : a.second = b.second) (asks : r.Asks route) (guarded : route ≠ .health) {p : Problem}
    (barred : r.Barred v.secret a.second route p) :
    (v.handle a r).1.Tells (w.handle b r).1 ∧
    (v.handle a r).1.Tells
      (if r.method = "HEAD" then (Response.ofProblem p).withoutContent else .ofProblem p) ∧
    (p.status = 401 ∨ p.status = 403 ∧ ∃ place, route = .review place) ∧
    (v.handle a r).2 = v ∧ (w.handle b r).2 = w := by
  obtain ⟨⟨status, content⟩, same⟩ := handle_of_barred asks guarded barred
  rw [secret, clock] at barred
  obtain ⟨⟨status', content'⟩, same'⟩ := handle_of_barred asks guarded barred
  have alike : (v.handle a r).1.Tells (w.handle b r).1 :=
    ⟨status.trans status'.symm, content.trans content'.symm⟩
  refine ⟨alike, ⟨status, content⟩, ?_, same, same'⟩
  cases barred with
  | missing => exact .inl rfl
  | malformed => exact .inl rfl
  | rejected => exact .inl rfl
  | role reviews => exact .inr ⟨rfl, _, reviews⟩

end Server

def learnerToken : String := Token.ofClaims "secret" ⟨1, "learner", 100, 0, "a"⟩

theorem validate_learnerToken :
    Token.validate "secret" 5 learnerToken = .ok ⟨1, "learner", 100, 0, "a"⟩ := by
  rw [learnerToken, Token.validate_ofClaims]
  cbv

/-- A request that names no token, to answer a question that is no number. -/
def nameless : Request := ⟨"POST", ⟨"/api/v1/questions/x/answers".toList, []⟩, [], "\x7b"⟩

/-- A learner decides on an answer that is no number, in words that are no JSON. -/
def presumptuous : Request :=
  ⟨"POST", ⟨"/api/v1/admin/answers/x/feedback".toList, []⟩,
    [("Authorization", "Bearer " ++ learnerToken)], "\x7b"⟩

theorem bears_presumptuous :
    presumptuous.Bears "secret" 5 ⟨1, "learner", 100, 0, "a"⟩ :=
  Request.bears_ofClaims (Headers.value?_cons_of_toLower (by cbv)) validate_learnerToken

theorem barred_learn_and_change_nothing_at_the_door :
    (nameless.Asks (.submission ['x']) ∧
      nameless.Barred strandedServer.secret 5 (.submission ['x'])
        ⟨401, "UNAUTHORIZED", "Missing Authorization header"⟩ ∧
      (strandedServer.handle ⟨default, 5, ""⟩ nameless).1.Tells
        (.ofProblem ⟨401, "UNAUTHORIZED", "Missing Authorization header"⟩) ∧
      (strandedServer.handle ⟨default, 5, ""⟩ nameless).2 = strandedServer) ∧
    presumptuous.Asks (.review ['x']) ∧
      presumptuous.Barred strandedServer.secret 5 (.review ['x'])
        ⟨403, "FORBIDDEN", "Admin role required"⟩ ∧
      (strandedServer.handle ⟨default, 5, "a"⟩ presumptuous).1.status = 403 ∧
      (strandedServer.handle ⟨default, 5, "a"⟩ presumptuous).1.Tells
        ({ strandedServer with store := none }.handle ⟨default, 5, "b"⟩ presumptuous).1 := by
  have asks : nameless.Asks (.submission ['x']) := by decide
  have unnamed : nameless.Barred strandedServer.secret 5 (.submission ['x']) _ := .missing (by cbv)
  have asks' : presumptuous.Asks (.review ['x']) := by decide
  have learner : presumptuous.Barred strandedServer.secret 5 (.review ['x']) _ :=
    .role rfl bears_presumptuous (by decide)
  obtain ⟨-, told, -, same, -⟩ := Server.barred_learn_and_change_nothing (v := strandedServer)
    (w := strandedServer) (a := ⟨default, 5, ""⟩) (b := ⟨default, 5, ""⟩) rfl rfl asks
    Route.noConfusion unnamed
  obtain ⟨alike, ⟨forbidden, -⟩, -, -, -⟩ := Server.barred_learn_and_change_nothing
    (v := strandedServer) (w := { strandedServer with store := none }) (a := ⟨default, 5, "a"⟩)
    (b := ⟨default, 5, "b"⟩) rfl rfl asks' Route.noConfusion learner
  exact ⟨⟨asks, unnamed, told, same⟩, asks', learner, forbidden, alike⟩

end LearningMap
