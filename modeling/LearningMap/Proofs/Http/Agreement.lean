import LearningMap.Proofs.Http.Admission
import LearningMap.Proofs.Http.Showing

/-!
# Two views of one node

A map asks for its own arrows and for what a scope has resolved on it; a node asks for the arrows
that lead into it, and for what was resolved among these. Where arrows carry the map of the node that
they lead to, and rows of progress the map of their arrow, both come to the same status. And both are
refused for a seat in the same words, since the seat is the only thing that can be refused.
-/

namespace LearningMap

/-- The status of a node depends on the arrows into it as a set, and on which of these have been
resolved. -/
theorem nodeStatus_congr {active : Bool} {node : Id} {done resolved resolved' : IdSet}
    {incoming incoming' : List Arrow} (arrows : ∀ a, a ∈ incoming ↔ a ∈ incoming')
    (same : ∀ a ∈ incoming, a.id ∈ resolved ↔ a.id ∈ resolved') :
    nodeStatus active node done incoming resolved =
      nodeStatus active node done incoming' resolved' := by
  have opened : incoming.any (·.id ∈ resolved) = incoming'.any (·.id ∈ resolved') := by
    rw [Bool.eq_iff_iff, List.any_eq_true, List.any_eq_true]
    simp only [decide_eq_true_eq]
    constructor
    · rintro ⟨a, ha, arrived⟩
      exact ⟨a, (arrows a).mp ha, (same a ha).mp arrived⟩
    · rintro ⟨a, ha, arrived⟩
      exact ⟨a, (arrows a).mpr ha, (same a ((arrows a).mpr ha)).mpr arrived⟩
  have entry : isEntry incoming = isEntry incoming' := by
    rw [Bool.eq_iff_iff, isEntry, isEntry, List.all_eq_true, List.all_eq_true]
    exact forall_congr' fun a => imp_congr_left (arrows a)
  unfold nodeStatus
  rw [opened, entry]

namespace Tables

variable {t : Tables} {scope : Scope} {n : Row.Node}

theorem mem_edgesInto {node : Id} {a : Arrow} :
    a ∈ (t.edgesInto node).map (·.toArrow) ↔ ∃ e ∈ t.edges, e.target = node ∧ e.toArrow = a := by
  simp only [edgesInto, List.mem_map, List.mem_filter, beq_iff_eq, and_assoc]

section Agreement

variable
  (target : ∀ a ∈ t.arrows, ∀ q ∈ t.rules, q.id = a.rule → ∀ n ∈ t.nodes, n.id = q.node →
    n.map = a.map)
  (progress : ∀ p ∈ t.progresses, ∀ a ∈ t.arrows, a.id = p.arrow → p.map = a.map)

include target in
theorem map_of_edge_into (hn : n ∈ t.nodes) {e : Edge} (he : e ∈ t.edges) (into : e.target = n.id) :
    e.map = n.map := by
  obtain ⟨a, ha, -, q, found, rfl⟩ := mem_edges.mp he
  have rule := List.find?_some found
  rw [Bool.and_eq_true, beq_iff_eq] at rule
  exact (target a ha q (List.mem_of_find?_eq_some found) rule.1 n hn into.symm).symm

include progress in
theorem mem_resolvedArrows_iff_resolved {e : Edge} (he : e ∈ t.edges) :
    e.id ∈ t.resolvedArrows e.map scope ↔ t.Resolved scope e.id := by
  obtain ⟨a, ha, -, q, -, rfl⟩ := mem_edges.mp he
  rw [mem_resolvedArrows]
  constructor
  · rintro ⟨r, hr, done, seen, -, arrow⟩
    exact ⟨r, hr, done, seen, arrow⟩
  · rintro ⟨r, hr, done, seen, arrow⟩
    exact ⟨r, hr, done, seen, progress r hr a ha arrow.symm, arrow⟩

include target progress

theorem status_nodeView (hn : n ∈ t.nodes) :
    (t.nodeView n scope).status =
      nodeStatus n.active n.id (t.completedNodes n.map scope)
        ((incomingArrows ((t.edgesOf n.map).map (·.toArrow))).getD n.id [])
        (t.resolvedArrows n.map scope) := by
  have done : IdSet.ofList ((t.completedPairs n.map scope).map (·.1)) =
      t.completedNodes n.map scope := by
    rw [IdSet.ext_iff]
    intro node
    simp only [IdSet.mem_ofList, List.mem_map, Prod.exists, exists_and_right, exists_eq_right,
      mem_completedNodes]
  have arrows : ∀ a, a ∈ (t.edgesInto n.id).map (·.toArrow) ↔
      a ∈ (incomingArrows ((t.edgesOf n.map).map (·.toArrow))).getD n.id [] := by
    intro a
    rw [mem_edgesInto, mem_incomingArrows]
    simp only [edgesOf, List.mem_map, List.mem_filter, beq_iff_eq]
    constructor
    · rintro ⟨e, he, into, rfl⟩
      exact ⟨⟨e, ⟨he, map_of_edge_into target hn he into⟩, rfl⟩, into⟩
    · rintro ⟨⟨e, ⟨he, -⟩, rfl⟩, into⟩
      exact ⟨e, he, into, rfl⟩
  change nodeStatus n.active n.id (.ofList ((t.completedPairs n.map scope).map (·.1)))
    ((t.edgesInto n.id).map (·.toArrow))
    (t.resolvedAmong (((t.edgesInto n.id).map (·.toArrow)).map (·.id)) scope) = _
  rw [done]
  refine nodeStatus_congr arrows fun a ha => ?_
  have among : a.id ∈ ((t.edgesInto n.id).map (·.toArrow)).map (·.id) := List.mem_map_of_mem ha
  rw [mem_resolvedAmong, and_iff_right among]
  obtain ⟨e, he, into, rfl⟩ := mem_edgesInto.mp ha
  rw [← map_of_edge_into target hn he into]
  exact (mem_resolvedArrows_iff_resolved progress he).symm

/-- A map lists each of its live nodes once, with the status that the node shows. -/
theorem mem_mapView_of_id_iff (distinct : (t.nodes.map (·.id)).Nodup) (hn : n ∈ t.nodes)
    (live : n.deletedAt = none) (row : Row.Node × Status) :
    row ∈ t.mapView n.map scope ∧ row.1.id = n.id ↔ row = (n, (t.nodeView n scope).status) := by
  obtain ⟨m, status⟩ := row
  rw [mem_mapView, status_nodeView target progress hn, Prod.mk.injEq]
  constructor
  · rintro ⟨⟨⟨hm, -, -⟩, shown⟩, same⟩
    obtain rfl := List.inj_on_of_nodup_map distinct hm hn same
    exact ⟨rfl, shown.symm⟩
  · rintro ⟨rfl, rfl⟩
    exact ⟨⟨⟨hn, rfl, live⟩, rfl⟩, rfl⟩

end Agreement

end Tables

namespace Action

variable {s : Store} {member : Id} {seat : Option Id}

theorem viewMap_eq {map : Id} {m : Row.Map} (found : s.tables.map? map = some m) :
    viewMap member map seat s =
      (do query (·.mapView map (← resolveScope member map seat)) : Action _) s := by
  have same : m.id = map := by
    have row := List.find?_some found
    rw [Bool.and_eq_true, beq_iff_eq] at row
    exact row.1
  have asked : query (·.map? map) s = (.ok (some m), s) := by rw [← found]; rfl
  have given : orRefuse (.notFound "Map" map) (some m) s = (.ok m, s) := rfl
  rw [viewMap, bind_of_ok asked, bind_of_ok given, same]

theorem viewNode_eq {node : Id} {n : Row.Node} (found : s.tables.node? node = some n) :
    viewNode member node seat s =
      (do query (·.nodeView n (← resolveScope member n.map seat)) : Action _) s := by
  have asked : query (·.node? node) s = (.ok (some n), s) := by rw [← found]; rfl
  have given : orRefuse (.notFound "Node" node) (some n) s = (.ok n, s) := rfl
  rw [viewNode, bind_of_ok asked, bind_of_ok given]

end Action

namespace Command

variable {s : Store} {member map node : Id} {seat : Option Id} {m : Row.Map} {n : Row.Node}

def mapOutcome (rows : List (Row.Node × Status)) : Outcome :=
  ⟨200, .list (fun (n, status) => statusRow n status) rows, []⟩

def nodeOutcome (view : NodeView) : Outcome := ⟨200, view.toJson, []⟩

theorem run_views_of_error (found : s.tables.map? map = some m)
    (found' : s.tables.node? node = some n) (on_map : n.map = map) {e : Failure}
    (refused : Action.resolveScope member map seat s = (.error e, s)) (now now' : Timestamp) :
    (viewMap member map seat).run now s = (.error e, s) ∧
      (viewNode member node seat).run now' s = (.error e, s) := by
  subst on_map
  constructor
  · refine Action.bind_of_error ?_
    rw [Action.viewMap_eq found, Action.bind_of_error refused]
  · refine Action.bind_of_error ?_
    rw [Action.viewNode_eq found', Action.bind_of_error refused]

theorem run_views_of_ok (found : s.tables.map? map = some m)
    (found' : s.tables.node? node = some n) (on_map : n.map = map) {scope : Scope}
    (resolved : Action.resolveScope member map seat s = (.ok scope, s)) (now now' : Timestamp) :
    (viewMap member map seat).run now s = (.ok (mapOutcome (s.tables.mapView map scope)), s) ∧
      (viewNode member node seat).run now' s =
        (.ok (nodeOutcome (s.tables.nodeView n scope)), s) := by
  subst on_map
  constructor
  · have viewed : Action.viewMap member n.map seat s = (.ok (s.tables.mapView n.map scope), s) := by
      rw [Action.viewMap_eq found, Action.bind_of_ok resolved]
      rfl
    rw [run, Action.bind_of_ok viewed]
    rfl
  · have viewed : Action.viewNode member node seat s = (.ok (s.tables.nodeView n scope), s) := by
      rw [Action.viewNode_eq found', Action.bind_of_ok resolved]
      rfl
    rw [run, Action.bind_of_ok viewed]
    rfl

end Command

namespace Request.Bears

variable {r : Request} {secret : String} {second : Int} {claims : Claims} {place : List Char}
  {id : Id} {seat : Option Id} (bears : r.Bears secret second claims) (path : pathId place = .ok id)
  (named : r.seat = .ok seat)
include bears path named

theorem command_map :
    r.command (.map place) secret second = .ok (some (.viewMap claims.subject id seat)) := by
  simp only [command, bears.caller_eq, path, named]
  rfl

theorem command_node :
    r.command (.node place) secret second = .ok (some (.viewNode claims.subject id seat)) := by
  simp only [command, bears.caller_eq, path, named]
  rfl

end Request.Bears

namespace Server

variable {v : Server} {s : Store} {a b : Arrival} {r q : Request}

theorem handle_of_command {route : Route} {c : Command} (asks : r.Asks route)
    (get : r.method ≠ "HEAD") (read : r.command route v.secret a.second = .ok (some c)) :
    (v.handle a r).1.Tells (v.perform a.time c).1 := by
  have served : v.serve a route r = v.perform a.time c := by
    simp only [serve, read]
  rw [handle_of_asks asks, if_neg get, served]
  exact ⟨rfl, rfl⟩

/-- The two views of a node agree. Let arrows carry the map of the node that they lead to, and rows of
progress the map of their arrow, whatever they say and whoever made them. Then a map and one of its
nodes, both asked for by a member on one seat or on none, are refused for the seat with the same
failure; or they are both shown, and the map lists the node once, with the status that the node has
in its own view. -/
theorem views_agree (stored : v.store = some s)
    (distinct : (s.tables.nodes.map (·.id)).Nodup)
    (target : ∀ a ∈ s.tables.arrows, ∀ q ∈ s.tables.rules, q.id = a.rule →
      ∀ n ∈ s.tables.nodes, n.id = q.node → n.map = a.map)
    (progress : ∀ p ∈ s.tables.progresses, ∀ a ∈ s.tables.arrows, a.id = p.arrow → p.map = a.map)
    {map node : Id} {m : Row.Map} {n : Row.Node} (found : s.tables.map? map = some m)
    (found' : s.tables.node? node = some n) (on_map : n.map = map) {member : Id} {seat : Option Id}
    {place place' : List Char} (asks : r.Asks (.map place)) (asks' : q.Asks (.node place'))
    (get : r.method = "GET") (get' : q.method = "GET")
    (read : r.command (.map place) v.secret a.second = .ok (some (.viewMap member map seat)))
    (read' : q.command (.node place') v.secret b.second = .ok (some (.viewNode member node seat))) :
    (∃ e, Action.resolveScope member map seat s = (.error e, s) ∧
      (v.handle a r).1.Tells (.ofFailure e) ∧ (v.handle b q).1.Tells (.ofFailure e)) ∨
    ∃ scope, Action.resolveScope member map seat s = (.ok scope, s) ∧
      (v.handle a r).1.Tells (.of 200 (.json (envelope
        (.list (fun (n, status) => statusRow n status) (s.tables.mapView map scope))))) ∧
      (v.handle b q).1.Tells (.of 200 (.json (envelope (s.tables.nodeView n scope).toJson))) ∧
      (∀ row, row ∈ s.tables.mapView map scope ∧ row.1.id = node ↔
        row = (n, (s.tables.nodeView n scope).status)) ∧
      (statusRow n (s.tables.nodeView n scope).status).member? "status" =
        (s.tables.nodeView n scope).toJson.member? "status" := by
  have told := handle_of_command (v := v) (a := a) asks (by rw [get]; decide) read
  have told' := handle_of_command (v := v) (a := b) asks' (by rw [get']; decide) read'
  have reads := Action.reads_resolveScope member map seat s
  rcases ran : Action.resolveScope member map seat s with ⟨e | scope, s'⟩
  · obtain rfl : s' = s := by rw [← reads, ran]
    obtain ⟨refused, refused'⟩ := Command.run_views_of_error found found' on_map ran a.time b.time
    rw [perform_of_error stored refused] at told
    rw [perform_of_error stored refused'] at told'
    exact .inl ⟨e, rfl, told, told'⟩
  · obtain rfl : s' = s := by rw [← reads, ran]
    obtain ⟨viewed, viewed'⟩ := Command.run_views_of_ok found found' on_map ran a.time b.time
    rw [perform_of_yields stored viewed] at told
    rw [perform_of_yields stored viewed'] at told'
    obtain ⟨hn, rfl, live⟩ := Tables.mem_of_node? found'
    subst on_map
    exact .inr ⟨scope, rfl, told, told',
      Tables.mem_mapView_of_id_iff target progress distinct hn live, rfl⟩

end Server

/-- Node 2 has two live arrows into it, the second from the node itself, and one under a rule that
was deleted. The first of them member 1 has not resolved, although there is a row for it, but member
2 has; the last of them member 1 has. The seat of member 1 is deactivated. -/
def junction : Store where
  tables :=
    { members := [⟨1, "ada", none, true, default⟩, ⟨2, "ben", none, true, default⟩]
      maps := [⟨1, "Map", false, 1, none, default⟩]
      nodes := [⟨1, 1, "S", "", "", true, none, default⟩, ⟨2, 1, "T", "", "", true, none, default⟩]
      rules := [⟨1, 1, 2, "", none, default⟩, ⟨2, 1, 2, "", some default, default⟩]
      arrows := [⟨1, 1, 1, 1, none, none, default⟩, ⟨2, 1, 2, 1, none, none, default⟩,
        ⟨3, 1, 1, 2, none, none, default⟩]
      plays := [⟨5, 1, "", 1, none, default⟩]
      seats := [⟨1, 5, 1, "participant", true, default⟩]
      progresses := [⟨1, 1, 1, 1, none, false, none, default⟩, ⟨2, 1, 1, 2, none, true, none, default⟩,
        ⟨3, 1, 3, 1, none, true, none, default⟩] }
  last := fun _ => 5

def junctionServer : Server := ⟨"secret", ⟨[]⟩, some junction, ⟨1024, [], 0, [], false⟩⟩

def learnerAsks (path query : String) : Request :=
  ⟨"GET", ⟨path.toList, query.toList⟩, [("Authorization", "Bearer " ++ learnerToken)], ""⟩

def learnerArrival : Arrival := ⟨default, 5, ""⟩

theorem bears_learnerAsks (path query : String) :
    (learnerAsks path query).Bears "secret" 5 ⟨1, "learner", 100, 0, "a"⟩ :=
  Request.bears_ofClaims (Headers.value?_cons_of_toLower (by cbv)) validate_learnerToken

/-- Member 1 finds node 2 locked in both views, and on the deactivated seat neither of them. -/
theorem views_agree_at_junction :
    ((⟨2, 1, "T", "", "", true, none, default⟩, .locked) ∈ junction.tables.mapView 1 (.solo 1) ∧
      (junctionServer.handle learnerArrival (learnerAsks "/api/v1/nodes/2/progress" "")).1.Tells
        (.of 200 (.json (envelope (junction.tables.nodeView
          ⟨2, 1, "T", "", "", true, none, default⟩ (.solo 1)).toJson)))) ∧
    (junctionServer.handle learnerArrival
      (learnerAsks "/api/v1/maps/1/nodes" "map_play_member_id=1")).1.Tells
        (.ofFailure (.refused (.forbidden "Seat is deactivated"))) ∧
    (junctionServer.handle learnerArrival
      (learnerAsks "/api/v1/nodes/2/progress" "map_play_member_id=1")).1.Tells
        (.ofFailure (.refused (.forbidden "Seat is deactivated"))) := by
  have asks : ∀ query, (learnerAsks "/api/v1/maps/1/nodes" query).Asks (.map ['1']) :=
    fun query => ⟨rfl, rfl⟩
  have asks' : ∀ query, (learnerAsks "/api/v1/nodes/2/progress" query).Asks (.node ['2']) :=
    fun query => ⟨rfl, rfl⟩
  have found : junction.tables.map? 1 = some ⟨1, "Map", false, 1, none, default⟩ := by decide
  have found' : junction.tables.node? 2 = some ⟨2, 1, "T", "", "", true, none, default⟩ := by decide
  have views := fun query seat (named : ∀ path, (learnerAsks path query).seat = .ok seat) =>
    Server.views_agree (v := junctionServer) (s := junction) (a := learnerArrival)
      (b := learnerArrival) rfl (by decide) (by decide) (by decide) found found' rfl (asks query)
      (asks' query) rfl rfl
      ((bears_learnerAsks _ query).command_map (by cbv) (named _))
      ((bears_learnerAsks _ query).command_node (by cbv) (named _))
  have alone : Action.resolveScope 1 1 none junction = (.ok (.solo 1), junction) := rfl
  have deactivated : Action.resolveScope 1 1 (some 1) junction =
      (.error (.refused (.forbidden "Seat is deactivated")), junction) := by cbv
  constructor
  · obtain ⟨e, refused, -⟩ | ⟨scope, resolved, -, told, rows, -⟩ :=
      views "" none (fun path => rfl)
    · rw [alone] at refused
      cases refused
    · rw [alone] at resolved
      cases resolved
      have locked : (junction.tables.nodeView
          ⟨2, 1, "T", "", "", true, none, default⟩ (.solo 1)).status = .locked := by cbv
      rw [locked] at rows
      exact ⟨((rows _).mpr rfl).1, told⟩
  · obtain ⟨e, refused, told, told'⟩ | ⟨scope, resolved, -⟩ :=
      views "map_play_member_id=1" (some 1) (fun path => rfl)
    · rw [deactivated] at refused
      cases refused
      exact ⟨told, told'⟩
    · rw [deactivated] at resolved
      cases resolved

end LearningMap
