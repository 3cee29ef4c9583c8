import LearningMap.Http.Server
import LearningMap.Proofs.Service.Calls

/-!
# Serving calls

A server runs a command on its store and publishes what happened. When the command fails, all rows
are as they were, and so is the bus, although identifiers may be gone. Hence a request whose
response tells no success has left no trace. What a run of submissions and reviews publishes is read
off the stores in between.
-/

namespace LearningMap

namespace Action

variable {α β : Type}

theorem Reads.undoes {act : Action α} (h : act.Reads) : act.Undoes := by
  intro s e s' failed
  have same := h s
  rw [failed] at same
  exact congrArg Store.tables same

theorem Undoes.map {act : Action α} (h : act.Undoes) (f : α → β) :
    (do let a ← act; pure (f a) : Action β).Undoes := by
  intro s e s' failed
  rcases error_bind failed with first | ⟨a, s₁, -, later⟩
  · exact h s e s' first
  · cases later

theorem snd_map (act : Action α) (f : α → β) (s : Store) :
    ((do let a ← act; pure (f a) : Action β) s).2 = (act s).2 := by
  rcases ran : act s with ⟨e | a, s'⟩
  · rw [Action.bind_of_error ran]
  · rw [Action.bind_of_ok ran]
    rfl

theorem reads_viewMap (member map : Id) (seat : Option Id) : (viewMap member map seat).Reads := by
  refine (reads_query _).bind fun found => (reads_orRefuse _ found).bind fun m => ?_
  exact (reads_resolveScope _ _ _).bind fun scope => reads_query _

theorem reads_viewNode (member node : Id) (seat : Option Id) :
    (viewNode member node seat).Reads := by
  refine (reads_query _).bind fun found => (reads_orRefuse _ found).bind fun n => ?_
  exact (reads_resolveScope _ _ _).bind fun scope => reads_query _

end Action

namespace Command

theorem undoes_run (now : Timestamp) (c : Command) : (c.run now).Undoes := by
  cases c with
  | submit member question submission => exact (Action.undoes_submit _ _ _ _).map _
  | review reviewer answer decision => exact (Action.undoes_review _ _ _ _).map _
  | viewMap member map seat => exact (Action.reads_viewMap _ _ _).undoes.map _
  | viewNode member node seat => exact (Action.reads_viewNode _ _ _).undoes.map _

theorem status_of_yields {now : Timestamp} {c : Command} {s s' : Store} {o : Outcome}
    (done : (c.run now).Yields s o s') : o.status = 200 ∨ o.status = 201 := by
  cases c <;>
    obtain ⟨_, _, -, finished⟩ := Action.yields_bind.mp done <;>
    obtain ⟨rfl, -⟩ := Action.yields_pure.mp finished
  case submit => exact .inr rfl
  all_goals exact .inl rfl

end Command

namespace Server

variable {v : Server} {s : Store}

/-- Of two servers, no row of any table differs, and the same was published. -/
def SameTraces (v v' : Server) : Prop :=
  ∃ store, v' = { v with store } ∧ store.map (·.tables) = v.store.map (·.tables)

theorem SameTraces.refl (v : Server) : v.SameTraces v := ⟨v.store, rfl, rfl⟩

theorem perform_of_error {now : Timestamp} {c : Command} {e : Failure} {s' : Store}
    (stored : v.store = some s) (failed : c.run now s = (.error e, s')) :
    v.perform now c = (.ofFailure e, { v with store := some s' }) := by
  simp only [perform, stored, failed]

theorem perform_of_yields {now : Timestamp} {c : Command} {o : Outcome} {s' : Store}
    (stored : v.store = some s) (done : (c.run now).Yields s o s') :
    v.perform now c = (.of o.status (.json (envelope o.data)),
      { v with store := some s', bus := v.bus.publishAll o.events }) := by
  have ok : c.run now s = (.ok o, s') := done
  simp only [perform, stored, ok]

/-- What comes of a request is a success, or else has left no trace. -/
def Traceless (v : Server) (served : Response × Server) : Prop :=
  served.1.status ≠ 200 → served.1.status ≠ 201 → v.SameTraces served.2

theorem traceless_of_eq {served : Response × Server} (same : served.2 = v) : v.Traceless served :=
  fun _ _ => same ▸ .refl v

theorem traceless_perform (v : Server) (now : Timestamp) (c : Command) :
    v.Traceless (v.perform now c) := by
  cases stored : v.store with
  | none => exact traceless_of_eq (by simp only [perform, stored])
  | some s =>
    rcases ran : c.run now s with ⟨e | o, s'⟩
    · rw [perform_of_error stored ran]
      refine fun _ _ => ⟨some s', rfl, ?_⟩
      rw [stored, Option.map_some, Option.map_some, c.undoes_run now s e s' ran]
    · rw [perform_of_yields stored ran]
      intro not_ok not_created
      exact ((Command.status_of_yields ran).elim not_ok not_created).elim

theorem traceless_serve (v : Server) (a : Arrival) (route : Route) (r : Request) :
    v.Traceless (v.serve a route r) := by
  unfold serve
  split
  · exact traceless_of_eq rfl
  · exact traceless_of_eq rfl
  · exact traceless_perform v a.time _

theorem traceless_dispatch (v : Server) (a : Arrival) (r : Request) :
    v.Traceless (v.dispatch a r) := by
  have same_status : ∀ response : Response,
      (if r.method = "HEAD" then response.withoutContent else response).status =
        response.status := by
    intro response
    split <;> rfl
  unfold dispatch
  split
  · exact traceless_of_eq rfl
  · rename_i route _
    split
    · intro not_ok not_created
      dsimp only at not_ok not_created
      rw [same_status] at not_ok not_created
      exact traceless_serve v a route r not_ok not_created
    · exact traceless_of_eq rfl

theorem traceless_handle (v : Server) (a : Arrival) (r : Request) :
    v.Traceless (v.handle a r) := by
  unfold handle
  split
  · exact traceless_of_eq rfl
  · exact traceless_dispatch v a r

/-- Failed requests leave no trace. When a command fails, whatever it is and however far it got, all
rows of all tables are as they were and nothing is published; and so it is with every request whose
response tells no success. -/
theorem failures_leave_no_trace (v : Server) :
    (∀ (now : Timestamp) (c : Command) (s s' : Store) (e : Failure), v.store = some s →
      c.run now s = (.error e, s') →
        s'.tables = s.tables ∧
        v.perform now c = (.ofFailure e, { v with store := some s' })) ∧
    ∀ (a : Arrival) (r : Request),
      (v.handle a r).1.status ≠ 200 → (v.handle a r).1.status ≠ 201 →
        v.SameTraces (v.handle a r).2 := by
  constructor
  · intro now c s s' e stored failed
    exact ⟨c.undoes_run now s e s' failed, perform_of_error stored failed⟩
  · intro a r
    exact traceless_handle v a r

end Server

namespace Call

def time : Call → Timestamp
  | submit now _ _ _ => now
  | review now _ _ _ => now

def command : Call → Command
  | submit _ member question submission => .submit member question submission
  | review _ reviewer answer r => .review reviewer answer r

/-- A call as a server runs it. -/
def run (call : Call) : Action Outcome := call.command.run call.time

variable {s s' : Store}

theorem snd_run (s : Store) (call : Call) : (call.run s).2 = call.perform s := by
  cases call with
  | submit now member question submission => exact Action.snd_map _ _ s
  | review now reviewer answer r => exact Action.snd_map _ _ s

/-- What is published of a call: the events of its outcome, if it succeeds. -/
def published (s : Store) (call : Call) : List Event :=
  match (call.run s).1 with
  | .ok o => o.events
  | .error _ => []

theorem published_of_yields {call : Call} {o : Outcome} (done : call.run.Yields s o s') :
    call.published s = o.events := by
  have ok : call.run s = (.ok o, s') := done
  simp only [published, ok]

theorem published_of_error {call : Call} {e : Failure} (failed : call.run s = (.error e, s')) :
    call.published s = [] := by
  simp only [published, failed]

end Call

/-- What is published of a run of calls. -/
def Store.published (s : Store) : List Call → List Event
  | [] => []
  | call :: calls => call.published s ++ (call.perform s).published calls

theorem Store.published_append (s : Store) (earlier later : List Call) :
    s.published (earlier ++ later) = s.published earlier ++ (s.after earlier).published later := by
  induction earlier generalizing s with
  | nil => rfl
  | cons call earlier ih =>
    change call.published s ++ (call.perform s).published (earlier ++ later) =
      call.published s ++ (call.perform s).published earlier ++
        ((call.perform s).after earlier).published later
    rw [ih, List.append_assoc]

def Server.performAll (v : Server) (calls : List Call) : Server :=
  calls.foldl (fun v call => (v.perform call.time call.command).2) v

theorem Bus.publishAll_append {ε : Type} (b : Bus ε) (es fs : List ε) :
    b.publishAll (es ++ fs) = (b.publishAll es).publishAll fs :=
  List.foldl_append

theorem Server.snd_perform {v : Server} {s : Store} (stored : v.store = some s) (call : Call) :
    (v.perform call.time call.command).2 =
      { v with store := some (call.perform s), bus := v.bus.publishAll (call.published s) } := by
  rw [← Call.snd_run]
  rcases ran : call.run s with ⟨e | o, s'⟩
  · rw [perform_of_error stored ran, Call.published_of_error ran]
    rfl
  · rw [perform_of_yields stored ran, Call.published_of_yields ran]

/-- A server that performs calls one after another has stored and published what they come to. -/
theorem Server.performAll_eq {v : Server} {s : Store} (stored : v.store = some s)
    (calls : List Call) :
    v.performAll calls =
      { v with store := some (s.after calls), bus := v.bus.publishAll (s.published calls) } := by
  induction calls generalizing v s with
  | nil =>
    change v = { v with store := some s, bus := v.bus }
    rw [← stored]
  | cons call calls ih =>
    change ((v.perform call.time call.command).2).performAll calls = _
    rw [snd_perform stored, ih rfl, Store.published, Bus.publishAll_append]
    rfl

/-- The start node of the arrow of question 1 was deleted. For the arrow of question 2 there is a
row that says that member 1 has not resolved it, and member 1 has answered question 2. -/
def stranded : Store where
  tables :=
    { members := [⟨1, "ada", none, true, default⟩]
      maps := [⟨1, "Map", false, 1, none, default⟩]
      nodes := [⟨1, 1, "S", "", "", true, some default, default⟩,
        ⟨2, 1, "T", "", "", true, none, default⟩, ⟨3, 1, "U", "", "", true, none, default⟩]
      rules := [⟨1, 1, 2, "", none, default⟩, ⟨2, 1, 3, "", none, default⟩]
      questions := [⟨1, 1, "Q", "", ["file"], "manual", true, none, none, none, default⟩,
        ⟨2, 1, "Q", "", ["file"], "manual", false, none, none, none, default⟩]
      arrows := [⟨1, 1, 1, 1, some 1, none, default⟩, ⟨2, 1, 2, 2, some 2, none, default⟩]
      progresses := [⟨1, 1, 2, 1, none, false, none, default⟩]
      answers := [⟨1, 1, 2, 1, none, "", none, none, none, none, default⟩] }
  last := fun _ => 3

def strandedServer : Server := ⟨"secret", ⟨[]⟩, some stranded, ⟨1024, [], 0, [], false⟩⟩

def strandedAnswer : Command := .submit 1 1 ⟨none, [⟨"", ""⟩], none⟩

def strandedReview : Command := .review 1 1 ⟨true, none⟩

/-- A request to answer question 1 that bears no token. -/
def anonymous : Request := ⟨"POST", ⟨"/api/v1/questions/1/answers".toList, []⟩, [], ""⟩

/-- The submission fails once the answer, its file and the row of its arrow are stored, the review
once its decision is, and the anonymous request before anything. -/
theorem failures_leave_no_trace_when_stranded :
    strandedServer.store = some stranded ∧
    (∃ s', strandedAnswer.run default stranded = (.error (.refused (.notFound "Node" 1)), s') ∧
      (s'.last .answers, s'.last .answerFiles, s'.last .progresses) = (4, 4, 4) ∧
      s'.tables = stranded.tables ∧
      (strandedServer.perform default strandedAnswer).2 =
        { strandedServer with store := some s' }) ∧
    (∃ s', strandedReview.run default stranded = (.error (.database .rowNotFound), s') ∧
      s'.tables = stranded.tables) ∧
    (strandedServer.handle ⟨default, 0, ""⟩ anonymous).1.status = 401 ∧
    strandedServer.SameTraces (strandedServer.handle ⟨default, 0, ""⟩ anonymous).2 := by
  obtain ⟨failing, refused⟩ := strandedServer.failures_leave_no_trace
  have answer : (strandedAnswer.run default stranded).1 =
      .error (.refused (.notFound "Node" 1)) := by cbv
  have taken : ((strandedAnswer.run default stranded).2.last .answers,
      (strandedAnswer.run default stranded).2.last .answerFiles,
      (strandedAnswer.run default stranded).2.last .progresses) = (4, 4, 4) := by cbv
  have review : (strandedReview.run default stranded).1 = .error (.database .rowNotFound) := by cbv
  have status : (strandedServer.handle ⟨default, 0, ""⟩ anonymous).1.status = 401 := by cbv
  have answered : strandedAnswer.run default stranded = (_, _) := Prod.ext answer rfl
  have reviewed : strandedReview.run default stranded = (_, _) := Prod.ext review rfl
  obtain ⟨same, performed⟩ := failing default strandedAnswer stranded _ _ rfl answered
  refine ⟨rfl, ⟨_, answered, taken, same, congrArg Prod.snd performed⟩, ⟨_, reviewed, ?_⟩, status,
    ?_⟩
  · exact (failing default strandedReview stranded _ _ rfl reviewed).1
  · apply refused
    · rw [status]
      decide
    · rw [status]
      decide

end LearningMap
