import LearningMap.Proofs.Http.Admission
import LearningMap.Proofs.Json.Record
import LearningMap.Proofs.Service.Authorship
import LearningMap.Proofs.Service.View

/-!
# Whose rows requests make

A request makes a call or none, and a submission is made for the member whom the token of the request
names. So what a server has stored after any requests belongs to members who showed their tokens, and
a request that names a seat which is not to be taken leaves the server as it was.
-/

namespace LearningMap

/-- The calls that a command comes to: one, or none if it only asks for a view. -/
def Command.calls (now : Timestamp) : Command → List Call
  | submit member question sub => [.submit now member question sub]
  | review reviewer answer r => [.review now reviewer answer r]
  | viewMap _ _ _ => []
  | viewNode _ _ _ => []

def Request.calls (r : Request) (secret : String) (a : Arrival) : List Call :=
  match Route.ofPath? r.target.path with
  | none => []
  | some route =>
    if route.methods.contains r.method then
      match r.command route secret a.second with
      | .ok (some c) => c.calls a.time
      | _ => []
    else []

namespace Server

/-- A server after some requests, one after another. -/
def handleAll (v : Server) (requests : List (Arrival × Request)) : Server :=
  requests.foldl (fun v (a, r) => (v.handle a r).2) v

def calls (v : Server) (requests : List (Arrival × Request)) : List Call :=
  requests.flatMap fun (a, r) => r.calls v.secret a

variable {v : Server} {s : Store} {a : Arrival} {r : Request}

theorem perform_of_reads (stored : v.store = some s) {now : Timestamp} {c : Command}
    (reads : (c.run now s).2 = s) : ∃ bus, (v.perform now c).2 = { v with store := some s, bus } := by
  rcases ran : c.run now s with ⟨e | o, s'⟩
  · obtain rfl : s' = s := by rw [← reads, ran]
    exact ⟨v.bus, congrArg Prod.snd (perform_of_error stored ran)⟩
  · obtain rfl : s' = s := by rw [← reads, ran]
    exact ⟨_, congrArg Prod.snd (perform_of_yields stored ran)⟩

theorem store_perform (v : Server) (now : Timestamp) (c : Command) :
    ∃ bus, (v.perform now c).2 = { v with store := v.store.map (·.after (c.calls now)), bus } := by
  cases stored : v.store with
  | none =>
    refine ⟨v.bus, ?_⟩
    simp only [perform, stored, Option.map_none]
    rw [← stored]
  | some s =>
    rw [Option.map_some]
    cases c with
    | submit member question sub => exact ⟨_, snd_perform stored (.submit now member question sub)⟩
    | review reviewer answer r => exact ⟨_, snd_perform stored (.review now reviewer answer r)⟩
    | viewMap member map seat =>
      exact perform_of_reads stored ((Action.snd_map _ _ s).trans (Action.reads_viewMap _ _ _ s))
    | viewNode member node seat =>
      exact perform_of_reads stored ((Action.snd_map _ _ s).trans (Action.reads_viewNode _ _ _ s))

theorem calls_of_asks {route : Route} {secret : String} (asks : r.Asks route) :
    r.calls secret a = match r.command route secret a.second with
      | .ok (some c) => c.calls a.time
      | _ => [] := by
  obtain ⟨leads, own⟩ := asks
  simp only [Request.calls, leads, own, if_true]

theorem store_handle (v : Server) (a : Arrival) (r : Request) :
    ∃ bus, (v.handle a r).2 = { v with store := v.store.map (·.after (r.calls v.secret a)), bus } := by
  have nothing : v.store.map (·.after []) = v.store := Option.map_id'
  by_cases asked : ∃ route, r.Asks route
  · obtain ⟨route, asks⟩ := asked
    rw [handle_of_asks asks, calls_of_asks asks, serve]
    cases r.command route v.secret a.second with
    | error response => exact ⟨v.bus, by rw [nothing]⟩
    | ok command =>
      cases command with
      | none => exact ⟨v.bus, by rw [nothing]⟩
      | some c => exact v.store_perform a.time c
  · have none_made : r.calls v.secret a = [] := by
      unfold Request.calls
      split
      · rfl
      · rename_i route leads
        exact if_neg fun own => asked ⟨route, leads, own⟩
    have dispatched : (v.dispatch a r).2 = v := by
      unfold dispatch
      split
      · rfl
      · rename_i route leads
        rw [if_neg fun own => asked ⟨route, leads, own⟩]
    have same : (v.handle a r).2 = v := by
      unfold handle
      split
      · rfl
      · exact dispatched
    exact ⟨v.bus, by rw [none_made, nothing, same]⟩

/-- After any requests, a server has stored what their calls come to. -/
theorem store_handleAll (v : Server) (requests : List (Arrival × Request)) :
    ∃ bus, v.handleAll requests = { v with store := v.store.map (·.after (v.calls requests)), bus } := by
  induction requests generalizing v with
  | nil =>
    have nothing : v.store.map (·.after []) = v.store := Option.map_id'
    exact ⟨v.bus, by rw [calls, List.flatMap_nil, nothing]; rfl⟩
  | cons first requests ih =>
    obtain ⟨a, r⟩ := first
    obtain ⟨bus, handled⟩ := v.store_handle a r
    obtain ⟨bus', rest⟩ := ih (v.handle a r).2
    refine ⟨bus', ?_⟩
    change (v.handle a r).2.handleAll requests = _
    rw [rest, handled]
    simp only [calls, List.flatMap_cons, Option.map_map]
    congr 2
    funext s
    exact (s.after_append _ _).symm

end Server

namespace Request

variable {r : Request} {secret : String} {a : Arrival} {call : Call}

theorem asks_of_mem_calls (made : call ∈ r.calls secret a) :
    ∃ route, r.Asks route ∧ r.command route secret a.second = .ok (some call.command) ∧
      call.time = a.time := by
  unfold calls at made
  split at made
  · cases made
  · rename_i route leads
    split at made
    · rename_i own
      split at made
      · rename_i c read
        refine ⟨route, ⟨leads, own⟩, ?_⟩
        cases c with
        | submit member question sub =>
          rw [List.mem_singleton.mp made]
          exact ⟨read, rfl⟩
        | review reviewer answer r =>
          rw [List.mem_singleton.mp made]
          exact ⟨read, rfl⟩
        | viewMap => cases made
        | viewNode => cases made
      · cases made
    · cases made

/-- A request submits for the member whom its token names. -/
theorem bears_of_command {route : Route} {second : Int} {member question : Id} {sub : Submission}
    (read : r.command route secret second = .ok (some (.submit member question sub))) :
    ∃ claims, r.Bears secret second claims ∧ claims.subject = member := by
  have guarded : route ≠ .health := by
    rintro rfl
    cases read
  rcases r.barred_or_bears secret second route with ⟨p, barred⟩ | ⟨claims, bears, -⟩
  · rw [barred.command_eq guarded] at read
    cases read
  · refine ⟨claims, bears, ?_⟩
    cases route with
    | health => exact absurd rfl guarded
    | submission place =>
      obtain ⟨caller, called, read⟩ := exists_of_bind_eq_ok read
      obtain ⟨_, -, read⟩ := exists_of_bind_eq_ok read
      obtain ⟨_, -, read⟩ := exists_of_bind_eq_ok read
      rw [bears.caller_eq] at called
      cases called
      cases read
      rfl
    | review place | map place | node place =>
      obtain ⟨_, -, read⟩ := exists_of_bind_eq_ok read
      obtain ⟨_, -, read⟩ := exists_of_bind_eq_ok read
      obtain ⟨_, -, read⟩ := exists_of_bind_eq_ok read
      cases read

theorem bears_of_mem_calls {now : Timestamp} {member question : Id} {sub : Submission}
    (made : .submit now member question sub ∈ r.calls secret a) :
    a.time = now ∧ ∃ claims, r.Bears secret a.second claims ∧ claims.subject = member := by
  obtain ⟨route, -, read, time⟩ := asks_of_mem_calls made
  exact ⟨time.symm, bears_of_command read⟩

end Request

namespace Server

variable {v : Server} {s : Store}

/-- A request that names a barred seat leaves the server as it was. -/
theorem handle_of_seatBarred (stored : v.store = some s) (lawful : s.Lawful) {a : Arrival}
    {r : Request} {now : Timestamp} {member question seat : Id} {sub : Submission}
    (made : .submit now member question sub ∈ r.calls v.secret a) (named : sub.seat = some seat)
    (barred : ∀ q, s.tables.question? question = some q → s.tables.SeatBarred member q.map seat) :
    (v.handle a r).2 = v := by
  obtain ⟨route, asks, read, -⟩ := Request.asks_of_mem_calls made
  obtain ⟨e, refused⟩ := Action.submit_of_barred lawful named barred a.time
  have failed : (Command.submit member question sub).run a.time s = (.error e, s) :=
    Action.bind_of_error refused
  have served : (v.serve a route r).2 = v := by
    simp only [serve, read]
    change (v.perform a.time (.submit member question sub)).2 = v
    rw [perform_of_error stored failed, ← stored]
  rw [handle_of_asks asks]
  exact served

/-- Rows belong to those who submitted the answers behind them. Let a server start from no answers and
no progress on a graph whose rows agree about their maps, and handle any requests. A submission is made
for the member whom the token of its request names. Every row is on no seat, or on a seat of its own
member in a play of its own map. The member of an answer is the one who submitted it, and a row of
progress stems from an answer of its member, whoever reviewed the answer. And a submission for a seat
that is not to be taken leaves everything as it was. -/
theorem rows_belong_to_submitters (stored : v.store = some s) (lawful : s.Lawful)
    (consistent : s.tables.MapConsistent) (no_answer : s.tables.answers = [])
    (no_progress : s.tables.progresses = []) (no_history : s.tables.histories = [])
    (requests : List (Arrival × Request)) :
    let calls := v.calls requests
    let t := (s.after calls).tables
    (v.handleAll requests).store = some (s.after calls) ∧
    (∀ now member question sub, .submit now member question sub ∈ calls →
      ∃ a r claims, (a, r) ∈ requests ∧ a.time = now ∧ r.Bears v.secret a.second claims ∧
        claims.subject = member) ∧
    (∀ a ∈ t.answers, t.Owned a.map a.member a.seat ∧
      ∀ m, s.SubmittedBy calls m a.id ↔ m = a.member) ∧
    (∀ p ∈ t.progresses, t.Owned p.map p.member p.seat ∧
      s.StemsFrom calls (p ∈ ·.progresses) p.member) ∧
    (∀ h ∈ t.histories, t.Owned h.map h.member h.seat ∧
      s.StemsFrom calls (h ∈ ·.histories) h.member) ∧
    ∀ a r now member question sub seat, .submit now member question sub ∈ r.calls v.secret a →
      sub.seat = some seat →
      (∀ q, t.question? question = some q → t.SeatBarred member q.map seat) →
        ((v.handleAll requests).handle a r).2 = v.handleAll requests := by
  intro calls t
  obtain ⟨bus, handled⟩ := v.store_handleAll requests
  have reached : (v.handleAll requests).store = some (s.after calls) := by
    rw [handled, stored]
    rfl
  obtain ⟨lawful', -, attributed⟩ := Store.attributed_after lawful consistent
    (Tables.attributed_of_no_rows no_answer no_progress no_history) calls
  refine ⟨reached, ?authenticated, ?answers, ?progresses, ?histories, ?barred⟩
  case authenticated =>
    intro now member question sub made
    obtain ⟨⟨a, r⟩, among, made⟩ := List.mem_flatMap.mp made
    obtain ⟨time, claims, bears, subject⟩ := Request.bears_of_mem_calls made
    exact ⟨a, r, claims, among, time, bears, subject⟩
  case answers =>
    intro a ha
    have held : t.HoldsAnswer a.member a.id := ⟨a, ha, rfl, rfl⟩
    exact ⟨(attributed.answers a ha).1,
      Store.submittedBy_iff_of_holdsAnswer lawful no_answer held⟩
  case progresses =>
    intro p hp
    have before : p ∉ s.tables.progresses := by simp [no_progress]
    exact ⟨attributed.progresses p hp, Store.stemsFrom lawful no_answer before hp
      fun does absent present => does.member_of_rows.1 p present absent⟩
  case histories =>
    intro h hh
    have before : h ∉ s.tables.histories := by simp [no_history]
    exact ⟨attributed.histories h hh, Store.stemsFrom lawful no_answer before hh
      fun does absent present => does.member_of_rows.2 h present absent⟩
  case barred =>
    intro a r now member question sub seat made named barred
    have same_secret : (v.handleAll requests).secret = v.secret := by rw [handled]
    rw [← same_secret] at made
    exact handle_of_seatBarred reached lawful' made named barred

end Server

namespace Request

variable {r : Request} {secret : String} {a : Arrival} {claims : Claims} {place : List Char} {id : Id}

theorem calls_of_command {route : Route} {c : Command} (asks : r.Asks route)
    (read : r.command route secret a.second = .ok (some c)) :
    r.calls secret a = c.calls a.time := by
  rw [Server.calls_of_asks asks, read]

theorem content_eq {α : Type} {read : Json.Reader α} {value : α}
    (json : (r.headers.ascii? "content-type").any MediaType.isJson = true)
    (short : r.body.utf8ByteSize ≤ bodyLimit) (ok : Json.Reader.ofText read r.body = .ok value) :
    r.content read = .ok value := by
  rw [content, json, ok]
  exact if_neg (Nat.not_lt.mpr short)

theorem Bears.command_submission {second : Int} (bears : r.Bears secret second claims)
    (path : pathId place = .ok id) {sub : Submission}
    (content : r.content Submission.reader = .ok sub) :
    r.command (.submission place) secret second = .ok (some (.submit claims.subject id sub)) := by
  simp only [command, bears.caller_eq, path, content]
  rfl

theorem Bears.command_review {second : Int} (bears : r.Bears secret second claims)
    (role : claims.role = reviewerRole) (path : pathId place = .ok id) {review : Review}
    (content : r.content Review.reader = .ok review) :
    r.command (.review place) secret second = .ok (some (.review claims.subject id review)) := by
  have admitted : r.reviewer secret second = .ok ⟨claims.subject, claims.role⟩ := by
    rw [reviewer, bears.caller_eq]
    exact if_pos role
  simp only [command, admitted, path, content]
  rfl

end Request

/-- A lesson whose question waits for a review. -/
def seminar : Store :=
  { lesson with
    tables :=
      { lesson.tables with
        questions := [⟨1, 1, "Q", "", ["file"], "manual", false, none, none, none, default⟩] } }

def seminarServer : Server := ⟨"secret", ⟨[]⟩, some seminar, ⟨1024, [], 0, [], false⟩⟩

def seminarArrival : Arrival := ⟨default, 5, ""⟩

def adminToken : String := Token.ofClaims "secret" ⟨2, "admin", 100, 0, "b"⟩

theorem validate_adminToken :
    Token.validate "secret" 5 adminToken = .ok ⟨2, "admin", 100, 0, "b"⟩ := by
  rw [adminToken, Token.validate_ofClaims]
  cbv

def posted (token path body : String) : Request :=
  ⟨"POST", ⟨path.toList, []⟩,
    [("Authorization", "Bearer " ++ token), ("Content-Type", "application/json")], body⟩

def seatedBody : String :=
  "\x7b\"files\":[\x7b\"name\":\"a\",\"file\":\"b\"\x7d],\"map_play_member_id\":1\x7d"

def seatedAnswer (token : String) : Request :=
  posted token "/api/v1/questions/1/answers" seatedBody

def acceptance : Request :=
  posted adminToken "/api/v1/admin/answers/6/feedback" "\x7b\"is_correct\":true\x7d"

theorem bears_posted {claims : Claims} (path body : String)
    (accepted : Token.validate "secret" 5 (Token.ofClaims "secret" claims) = .ok claims) :
    (posted (Token.ofClaims "secret" claims) path body).Bears "secret" 5 claims :=
  Request.bears_ofClaims (Headers.value?_cons_of_toLower (by cbv)) accepted

theorem isJson_posted (token path body : String) :
    ((posted token path body).headers.ascii? "content-type").any MediaType.isJson = true := by
  rw [Headers.ascii?, posted, Headers.value?_cons_of_ne (by cbv),
    Headers.value?_cons_of_toLower (by cbv)]
  cbv

theorem calls_seatedAnswer {token : String} {claims : Claims}
    (bears : (seatedAnswer token).Bears "secret" 5 claims) :
    (seatedAnswer token).calls "secret" seminarArrival =
      [.submit default claims.subject 1 ⟨none, [⟨"a", "b"⟩], some 1⟩] := by
  have leads : Route.ofPath? "/api/v1/questions/1/answers".toList = some (.submission ['1']) := by
    decide +kernel
  have content : Json.Reader.ofText Submission.reader seatedBody =
      .ok ⟨none, [⟨"a", "b"⟩], some 1⟩ := by rfl
  have short : seatedBody.utf8ByteSize ≤ Request.bodyLimit := by decide +kernel
  have path : Request.pathId ['1'] = .ok 1 := by cbv
  have read := bears.command_submission path
    (Request.content_eq (isJson_posted token _ _) short content)
  exact Request.calls_of_command (a := seminarArrival) ⟨leads, rfl⟩ read

theorem calls_acceptance :
    acceptance.calls "secret" seminarArrival = [.review default 2 6 ⟨true, none⟩] := by
  have leads : Route.ofPath? "/api/v1/admin/answers/6/feedback".toList = some (.review ['6']) := by
    decide +kernel
  have content : Json.Reader.ofText Review.reader "\x7b\"is_correct\":true\x7d" =
      .ok ⟨true, none⟩ := by rfl
  have short : acceptance.body.utf8ByteSize ≤ Request.bodyLimit := by decide +kernel
  have bears : acceptance.Bears "secret" 5 ⟨2, "admin", 100, 0, "b"⟩ :=
    bears_posted _ _ validate_adminToken
  have path : Request.pathId ['6'] = .ok 6 := by cbv
  have read := bears.command_review rfl path
    (Request.content_eq (isJson_posted adminToken _ _) short content)
  exact Request.calls_of_command (a := seminarArrival) ⟨leads, rfl⟩ read

def seminarRequests : List (Arrival × Request) :=
  [(seminarArrival, seatedAnswer learnerToken), (seminarArrival, acceptance)]

def seminarCalls : List Call :=
  [.submit default 1 1 ⟨none, [⟨"a", "b"⟩], some 1⟩, .review default 2 6 ⟨true, none⟩]

theorem calls_seminarRequests : seminarServer.calls seminarRequests = seminarCalls := by
  have learner : (seatedAnswer learnerToken).Bears "secret" 5 ⟨1, "learner", 100, 0, "a"⟩ :=
    bears_posted _ _ validate_learnerToken
  change (seatedAnswer learnerToken).calls "secret" seminarArrival ++
    (acceptance.calls "secret" seminarArrival ++ []) = _
  rw [calls_seatedAnswer learner, calls_acceptance]
  rfl

/-- Member 1 answers from seat 1 and member 2 accepts the answer. The row of the resolved arrow is that
of member 1, and member 2 cannot answer from seat 1. -/
theorem rows_belong_to_submitters_in_seminar :
    seminar.Lawful ∧ seminar.tables.MapConsistent ∧
    (seminar.tables.answers = [] ∧ seminar.tables.progresses = [] ∧
      seminar.tables.histories = []) ∧
    (seminarServer.handleAll seminarRequests).store = some (seminar.after seminarCalls) ∧
    (∃ p ∈ (seminar.after seminarCalls).tables.progresses, (p.member, p.seat) = (1, some 1) ∧
      seminar.StemsFrom seminarCalls (p ∈ ·.progresses) 1) ∧
    ((seminarServer.handleAll seminarRequests).handle seminarArrival
      (seatedAnswer adminToken)).2 = seminarServer.handleAll seminarRequests := by
  have lawful : seminar.Lawful := by decide
  have consistent : seminar.tables.MapConsistent :=
    ⟨lesson_consistent.start, lesson_consistent.rule, lesson_consistent.target, by decide⟩
  obtain ⟨reached, -, -, progresses, -, barred⟩ := Server.rows_belong_to_submitters
    (v := seminarServer) rfl lawful consistent rfl rfl rfl seminarRequests
  rw [calls_seminarRequests] at reached progresses barred
  refine ⟨lawful, consistent, ⟨rfl, rfl, rfl⟩, reached, ?stems, ?refused⟩
  case stems =>
    have stored : (seminar.after seminarCalls).tables.progresses =
        [⟨6, 1, 1, 1, some 1, true, some default, default⟩] := by cbv
    have found : ⟨6, 1, 1, 1, some 1, true, some default, default⟩ ∈
        (seminar.after seminarCalls).tables.progresses := by
      rw [stored]
      exact List.mem_singleton.mpr rfl
    exact ⟨_, found, rfl, (progresses _ found).2⟩
  case refused =>
    have admin : (seatedAnswer adminToken).Bears "secret" 5 ⟨2, "admin", 100, 0, "b"⟩ :=
      bears_posted _ _ validate_adminToken
    have seats : (seminar.after seminarCalls).tables.seats = lesson.tables.seats := by cbv
    have made : .submit default 2 1 ⟨none, [⟨"a", "b"⟩], some 1⟩ ∈
        (seatedAnswer adminToken).calls "secret" seminarArrival := by
      rw [calls_seatedAnswer admin]
      exact List.mem_singleton.mpr rfl
    refine barred seminarArrival (seatedAnswer adminToken) default 2 1 _ 1 made rfl fun q _ => ?_
    have held : ⟨1, 5, 1, "participant", false, default⟩ ∈
        (seminar.after seminarCalls).tables.seats := by
      rw [seats]
      exact List.mem_cons_self
    exact .foreign held rfl (by decide)

end LearningMap
