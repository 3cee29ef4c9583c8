import LearningMap.Proofs.Graph.Closure
import LearningMap.Proofs.Store.Booking

/-!
# Completion on the store

A completion loads a snapshot, propagates and books the rows of the plan. No row of the plan meets a
stored one: a row with its key would be visible to the scope, so what it stands for would have been
loaded as resolved or recorded. Hence all rows are booked, and what is loaded afterwards is what the
propagation left in memory.
-/

namespace LearningMap

open Entity

/-- A store in which progress is booked as completions book it. Seats have positive identifiers, as
no seat counts as seat zero in the keys of progress. -/
structure Store.Sound (s : Store) : Prop where
  lawful : s.Lawful
  booked : s.tables.Booked
  positive : ∀ r ∈ s.tables.seats, 0 < r.id

theorem seatKey_inj {a b : Option Id} (ha : ∀ i, a = some i → 0 < i) (hb : ∀ i, b = some i → 0 < i)
    (h : seatKey a = seatKey b) : a = b := by
  cases a with
  | none =>
    cases b with
    | none => rfl
    | some j =>
      change 0 = j at h
      exact absurd (hb j rfl) (h ▸ Int.lt_irrefl 0)
  | some i =>
    cases b with
    | none =>
      change i = 0 at h
      exact absurd (ha i rfl) (h ▸ Int.lt_irrefl 0)
    | some j => exact congrArg some h

namespace Store

variable {s : Store} {scope : Scope} {map : Id}

theorem Lawful.seat_of_progress (h : s.Lawful) {r : Row.ArrowProgress}
    (hr : r ∈ s.tables.progresses) {i : Id} (hi : r.seat = some i) :
    ∃ q ∈ s.tables.seats, q.id = i := by
  have table : s.LawfulAt Row.ArrowProgress := h.at
  have found := dangling?_eq_none_iff.mp (table.referenced r hr)
    ⟨"map_play_member_id", .seats, i⟩ (by simp [references, hi])
  exact List.mem_map.mp found

theorem Lawful.seat_of_history (h : s.Lawful) {r : Row.NodeHistory}
    (hr : r ∈ s.tables.histories) {i : Id} (hi : r.seat = some i) :
    ∃ q ∈ s.tables.seats, q.id = i := by
  have table : s.LawfulAt Row.NodeHistory := h.at
  have found := dangling?_eq_none_iff.mp (table.referenced r hr)
    ⟨"map_play_member_id", .seats, i⟩ (by simp [references, hi])
  exact List.mem_map.mp found

namespace Lawful

theorem nodup_seats (h : s.Lawful) : (s.tables.seats.map (·.id)).Nodup := (h .seats).sound.distinct

theorem nodup_arrows (h : s.Lawful) : (s.tables.arrows.map (·.id)).Nodup :=
  (h .arrows).sound.distinct

theorem nodup_rules (h : s.Lawful) : (s.tables.rules.map (·.id)).Nodup := (h .rules).sound.distinct

end Lawful

namespace Sound

variable (h : s.Sound)
include h

theorem wellFormed : (s.tables.snapshot map scope).WellFormed :=
  Tables.snapshot_wellFormed h.lawful.nodup_arrows

theorem seat_pos (seated : s.tables.SeatedIn scope) {i : Id} (hi : scope.seat = some i) :
    0 < i := by
  cases scope with
  | solo m => cases hi
  | seated m i' p =>
    cases hi
    obtain ⟨r, hr, rfl, -⟩ := seated i p rfl rfl
    exact h.positive r hr

/-- A row that a scope stores is visible to it, whoever stored a row with the same member and the
same seat in the keys. -/
theorem visible_of_key (seated : s.tables.SeatedIn scope) {member : Id} {seat : Option Id}
    (sits : ∀ i, seat = some i → ∃ q ∈ s.tables.seats, q.id = i) (same_member : member = scope.member)
    (same_key : seatKey seat = seatKey scope.seat) :
    s.tables.visible scope member seat = true := by
  have positive : ∀ i, seat = some i → 0 < i := by
    intro i hi
    obtain ⟨q, hq, rfl⟩ := sits i hi
    exact h.positive q hq
  have same_seat : seat = scope.seat := seatKey_inj positive (fun i hi => h.seat_pos seated hi) same_key
  rw [same_member, same_seat]
  exact Tables.visible_self seated

/-- An open arrow of a loaded snapshot has no row of the same actor. -/
theorem free_arrow (seated : s.tables.SeatedIn scope) {a : Arrow} {n : Id}
    (ha : a ∈ (s.tables.snapshot map scope).outgoing n)
    (unresolved : a.id ∉ (s.tables.snapshot map scope).progress.arrows)
    {o : Row.ArrowProgress} (ho : o ∈ s.tables.progresses) (same_arrow : o.arrow = a.id)
    (same_member : o.member = scope.member) : seatKey o.seat ≠ seatKey scope.seat := by
  intro same_key
  obtain ⟨e, he, hmap, -, rfl⟩ := Tables.mem_outgoing_snapshot.mp ha
  obtain ⟨row, hrow, -, r, -, rfl⟩ := Tables.mem_edges.mp he
  have visible := h.visible_of_key seated (fun i => h.lawful.seat_of_progress ho) same_member same_key
  have same_map : o.map = map := (h.booked.map_of_arrow o ho row hrow same_arrow.symm).trans hmap
  exact unresolved (Tables.mem_arrows_snapshot.mpr
    ⟨o, ho, h.booked.resolved o ho, visible, same_map, same_arrow⟩)

theorem free_rule (seated : s.tables.SeatedIn scope) {r : Rule}
    (hr : (s.tables.snapshot map scope).rules[r.id]? = some r)
    (unrecorded : r.id ∉ (s.tables.snapshot map scope).progress.rules)
    {o : Row.NodeHistory} (ho : o ∈ s.tables.histories) (same_rule : o.rule = r.id)
    (same_member : o.member = scope.member) : seatKey o.seat ≠ seatKey scope.seat := by
  intro same_key
  obtain ⟨row, hrow, -, hmap, hid, -⟩ :=
    (Tables.getElem?_rules_snapshot h.lawful.nodup_rules).mp hr
  have visible := h.visible_of_key seated (fun i => h.lawful.seat_of_history ho) same_member same_key
  have same_map : o.map = map :=
    (h.booked.map_of_rule o ho row hrow (hid.trans same_rule.symm)).trans hmap
  exact unrecorded (Tables.mem_rules_snapshot.mpr ⟨o.node, o, ho, visible, same_map, rfl, same_rule⟩)

end Sound

end Store

theorem share_key_progress {a b : Row.ArrowProgress} :
    (∃ k ∈ keys a, k ∈ keys b) ↔
      a.arrow = b.arrow ∧ a.member = b.member ∧ seatKey a.seat = seatKey b.seat := by
  simp [keys]

theorem share_key_history {a b : Row.NodeHistory} :
    (∃ k ∈ keys a, k ∈ keys b) ↔
      a.node = b.node ∧ a.rule = b.rule ∧ a.member = b.member ∧ seatKey a.seat = seatKey b.seat := by
  simp [keys]

namespace Store.Sound

variable {s s₁ s' : Store} {scope : Scope} {map : Id} {run : Run} {now : Timestamp}
  {ps : List Row.ArrowProgress} {hs : List Row.NodeHistory}

theorem storeResolved (h : s.Sound) (seated : s.tables.SeatedIn scope)
    (ext : run.Extends (s.tables.snapshot map scope))
    (done : (Action.storeResolved (Plan.ofRun run scope now).resolutions).Yields s ps s₁) :
    ps = numbered (s.last .progresses) ((Plan.ofRun run scope now).resolutions.map (·.toRow)) ∧
      s₁.tables = { s.tables with progresses := s.tables.progresses ++ ps } ∧
      ∀ k, k ≠ .progresses → s₁.last k = s.last k := by
  refine h.lawful.insert_free ?free ?apart done
  case free =>
    intro r hr k hk o ho hk'
    simp only [Plan.ofRun, List.map_map, List.mem_map] at hr
    obtain ⟨a, ha, rfl⟩ := hr
    obtain ⟨same_arrow, same_member, same_key⟩ := share_key_progress.mp ⟨k, hk', hk⟩
    obtain ⟨n, -, hn⟩ := ext.outgoing a ha
    exact h.free_arrow seated hn (ext.unresolved a ha) ho same_arrow same_member same_key
  case apart =>
    simp only [Plan.ofRun, List.map_map]
    refine List.pairwise_map.mpr ((List.pairwise_map.mp ext.nodup_resolved).imp ?_)
    intro a b differ k hk hk'
    exact differ (share_key_progress.mp ⟨k, hk, hk'⟩).1

theorem storeCompleted (h : s.Sound) (seated : s.tables.SeatedIn scope)
    (ext : run.Extends (s.tables.snapshot map scope)) (lawful : s₁.Lawful)
    (same : s₁.tables.histories = s.tables.histories)
    (done : (Action.storeCompleted (Plan.ofRun run scope now).completions).Yields s₁ hs s') :
    hs = numbered (s₁.last .histories) ((Plan.ofRun run scope now).completions.map (·.toRow)) ∧
      s'.tables = { s₁.tables with histories := s₁.tables.histories ++ hs } ∧
      ∀ k, k ≠ .histories → s'.last k = s₁.last k := by
  refine lawful.insert_free ?free ?apart done
  case free =>
    intro r hr k hk o ho hk'
    simp only [Plan.ofRun, List.map_map, List.mem_map] at hr
    obtain ⟨q, hq, rfl⟩ := hr
    obtain ⟨-, same_rule, same_member, same_key⟩ := share_key_history.mp ⟨k, hk', hk⟩
    have stored : o ∈ s.tables.histories := same ▸ ho
    exact h.free_rule seated (ext.rule q hq) (ext.unrecorded q hq) stored same_rule same_member
      same_key
  case apart =>
    simp only [Plan.ofRun, List.map_map]
    refine List.pairwise_map.mpr ((List.pairwise_map.mp ext.nodup_recorded).imp ?_)
    intro q r differ k hk hk'
    exact differ (share_key_history.mp ⟨k, hk, hk'⟩).2.1

end Store.Sound

/-- A completion has booked the rows of a plan: all of them, in order, and nothing else. -/
structure Completion.Books (c : Completion) (plan : Plan) (s s' : Store) : Prop where
  resolved : c.resolved = numbered (s.last .progresses) (plan.resolutions.map (·.toRow))
  completed : c.completed = numbered (s.last .histories) (plan.completions.map (·.toRow))
  tables : s'.tables = s.tables.book c.resolved c.completed

namespace Completion.Books

variable {s s' : Store} {scope other : Scope} {map : Id} {run : Run} {now : Timestamp}
  {c : Completion}

section Rows

variable (books : c.Books (.ofRun run scope now) s s')
include books

theorem row_of_resolved {r : Row.ArrowProgress} (hr : r ∈ c.resolved) :
    r.resolved = true ∧ r.member = scope.member ∧ r.seat = scope.seat ∧
      ∃ a ∈ run.resolved, r.map = a.map ∧ r.arrow = a.id := by
  rw [books.resolved] at hr
  obtain ⟨q, hq, i, rfl⟩ := exists_of_mem_numbered hr
  simp only [Plan.ofRun, List.map_map, List.mem_map] at hq
  obtain ⟨a, ha, rfl⟩ := hq
  exact ⟨rfl, rfl, rfl, a, ha, rfl, rfl⟩

theorem row_of_completed {r : Row.NodeHistory} (hr : r ∈ c.completed) :
    r.member = scope.member ∧ r.seat = scope.seat ∧ r.map = run.snapshot.map ∧
      ∃ q ∈ run.recorded, r.node = q.node ∧ r.rule = q.id := by
  rw [books.completed] at hr
  obtain ⟨o, ho, i, rfl⟩ := exists_of_mem_numbered hr
  simp only [Plan.ofRun, List.map_map, List.mem_map] at ho
  obtain ⟨q, hq, rfl⟩ := ho
  exact ⟨rfl, rfl, rfl, q, hq, rfl, rfl⟩

theorem arrows_eq : c.resolved.map (·.arrow) = run.resolved.map (·.id) := by
  rw [books.resolved, map_numbered fun _ _ => rfl]
  simp [Plan.ofRun, ArrowResolution.toRow]

theorem pairs_eq :
    c.completed.map (fun r => (r.node, r.rule)) = run.recorded.map fun q => (q.node, q.id) := by
  rw [books.completed, map_numbered fun _ _ => rfl]
  simp [Plan.ofRun, NodeCompletion.toRow]

end Rows

section Reload

variable (books : c.Books (.ofRun run scope now) s s')
  (ext : run.Extends (s.tables.snapshot map scope)) (h : s.Sound)
  (seated : s.tables.SeatedIn scope)
include books ext

theorem ownRows : Tables.OwnRows scope map c.resolved c.completed where
  resolved r hr := by
    obtain ⟨done, same_member, same_seat, a, ha, same_map, -⟩ := books.row_of_resolved hr
    obtain ⟨-, -, -, -, own⟩ := Tables.arrow_of_resolved ext ha
    exact ⟨done, same_map.trans own, same_member, same_seat⟩
  completed r hr := by
    obtain ⟨same_member, same_seat, same_map, -⟩ := books.row_of_completed hr
    have own : run.snapshot.map = map :=
      (Snapshot.map_eq_of_graph ext.graph_eq).trans Tables.map_snapshot
    exact ⟨same_map.trans own, same_member, same_seat⟩

include h seated

/-- Every scope that shares progress loads what the run left in memory. -/
theorem snapshot_of_shares (shares : other.Shares scope) :
    s'.tables.snapshot map other = run.snapshot := by
  have loaded : (s.tables.snapshot map other) = s.tables.snapshot map scope :=
    Tables.snapshot_congr shares
  have progress := (books.ownRows ext).progress_of_shares h.lawful.nodup_seats seated shares
    books.pairs_eq
  rw [books.tables]
  apply Snapshot.ext_graph ((Tables.graph_book other).trans ext.graph_eq.symm)
  rw [progress, loaded, books.arrows_eq, ext.snapshot_eq]
  rfl

theorem snapshot_of_other {map' : Id} (differ : map' ≠ map ∨ ¬ other.Shares scope) :
    s'.tables.snapshot map' other = s.tables.snapshot map' other := by
  rw [books.tables]
  exact (books.ownRows ext).snapshot_of_other h.lawful.nodup_seats seated differ

omit seated in
theorem booked : s'.tables.Booked := by
  rw [books.tables]
  refine h.booked.book ?resolved ?map_of_arrow ?map_of_rule
  case resolved => exact fun r hr => (books.row_of_resolved hr).1
  case map_of_arrow =>
    intro r hr row hrow hid
    obtain ⟨-, -, -, a, ha, same_map, same_arrow⟩ := books.row_of_resolved hr
    obtain ⟨row', hrow', same_id, own, -⟩ := Tables.arrow_of_resolved ext ha
    have same : row = row' :=
      List.inj_on_of_nodup_map h.lawful.nodup_arrows hrow hrow'
        (hid.trans (same_arrow.trans same_id.symm))
    rw [same, own]
    exact same_map
  case map_of_rule =>
    intro r hr row hrow hid
    obtain ⟨-, -, same_map, q, hq, -, same_rule⟩ := books.row_of_completed hr
    obtain ⟨row', hrow', -, hmap, hid', -⟩ :=
      (Tables.getElem?_rules_snapshot h.lawful.nodup_rules).mp (ext.rule q hq)
    have same : row = row' :=
      List.inj_on_of_nodup_map h.lawful.nodup_rules hrow hrow' (hid.trans (same_rule.trans hid'.symm))
    have own : run.snapshot.map = map :=
      (Snapshot.map_eq_of_graph ext.graph_eq).trans Tables.map_snapshot
    exact same_map.trans (own.trans (same ▸ hmap.symm))

end Reload

end Completion.Books

namespace Action

variable {s s' : Store} {scope : Scope} {map : Id} {now : Timestamp}

theorem reads_lock (scope : Scope) : (lock scope).Reads := by
  unfold lock
  split
  · exact reads_pure ()
  · exact reads_throw _

theorem yields_lock {u : Unit} :
    (lock scope).Yields s u s' ↔ (∃ key, scope.lockWord = .ok key) ∧ s = s' := by
  unfold lock
  cases scope.lockWord with
  | ok key => simp
  | error operation => simp

/-- When a completion goes through, and what it has done: the rows of its plan are stored, arrows
first. -/
theorem yields_completeNodes_cons {actor : Actor} {first : Row.Node} {rest : List Row.Node}
    {c : Completion} :
    (completeNodes now actor (first :: rest)).Yields s c s' ↔
      ¬ 1 < (IdSet.ofList ((first :: rest).map (·.map))).toList.length ∧
      ∃ scope, actor.scope? = some scope ∧ (∃ key, scope.lockWord = .ok key) ∧
        let before := s.tables.snapshot first.map scope
        let plan := (before.propagate ((first :: rest).map (·.id)) scope now).2
        ∃ s₁, (storeResolved plan.resolutions).Yields s c.resolved s₁ ∧
          (storeCompleted plan.completions).Yields s₁ c.completed s' ∧
          c.already = .ofList ((c.completed.map (·.node)).filter (· ∈ before.progress.nodes)) ∧
          c.activated = plan.activated := by
  unfold completeNodes
  dsimp only
  split
  · rename_i several
    exact ⟨fun done => absurd done not_yields_refuse, fun done => absurd several done.1⟩
  · rename_i one
    rw [and_iff_right one, yields_orRefuse_bind]
    refine exists_congr fun scope => and_congr_right fun _ => ?_
    rw [(reads_lock scope).yields_bind]
    simp only [yields_lock, and_true, yields_query_bind]
    constructor
    · rintro ⟨-, key, done⟩
      obtain ⟨ps, s₁, resolved, done⟩ := yields_bind.mp done
      obtain ⟨hs, s₂, completed, done⟩ := yields_bind.mp done
      obtain ⟨rfl, rfl⟩ := yields_pure.mp done
      exact ⟨key, s₁, resolved, completed, rfl, rfl⟩
    · rintro ⟨key, s₁, resolved, completed, already, activated⟩
      refine ⟨(), key, yields_bind.mpr ⟨_, s₁, resolved, ?_⟩⟩
      refine yields_bind.mpr ⟨_, s', completed, yields_pure.mpr ⟨?_, rfl⟩⟩
      rw [← already, ← activated]

/-- A completion that goes through has stored the rows of its plan, arrows first. -/
theorem yields_completeNodes {actor : Actor} {nodes : List Row.Node} {c : Completion}
    (some_node : nodes ≠ []) (one_map : ∀ n ∈ nodes, n.map = map)
    (acting : actor.scope? = some scope) (done : (completeNodes now actor nodes).Yields s c s') :
    ∃ s₁,
      (storeResolved ((s.tables.snapshot map scope).propagate
        (nodes.map (·.id)) scope now).2.resolutions).Yields s c.resolved s₁ ∧
      (storeCompleted ((s.tables.snapshot map scope).propagate
        (nodes.map (·.id)) scope now).2.completions).Yields s₁ c.completed s' ∧
      c.already = .ofList ((c.completed.map (·.node)).filter
        (· ∈ (s.tables.snapshot map scope).progress.nodes)) ∧
      c.activated = ((s.tables.snapshot map scope).propagate
        (nodes.map (·.id)) scope now).2.activated := by
  obtain ⟨first, rest, rfl⟩ := List.exists_cons_of_ne_nil some_node
  obtain ⟨-, σ, acting', -, stored⟩ := yields_completeNodes_cons.mp done
  obtain rfl : scope = σ := Option.some.inj (acting.symm.trans acting')
  rwa [one_map first List.mem_cons_self] at stored

end Action

namespace Store.Sound

variable {s s' : Store} {scope : Scope} {map : Id} {now : Timestamp} {actor : Actor}
  {nodes : List Row.Node} {c : Completion}

/-- A completion books the plan of the propagation, and the store is sound again. -/
theorem completeNodes (h : s.Sound) (seated : s.tables.SeatedIn scope) (some_node : nodes ≠ [])
    (one_map : ∀ n ∈ nodes, n.map = map) (acting : actor.scope? = some scope)
    (done : (Action.completeNodes now actor nodes).Yields s c s') :
    c.Books ((s.tables.snapshot map scope).propagate (nodes.map (·.id)) scope now).2 s s' ∧
      s'.Sound := by
  have wf : (s.tables.snapshot map scope).WellFormed := h.wellFormed
  have ext := Snapshot.run_extends wf (nodes.map (·.id))
  obtain ⟨s₁, resolved, completed, -, -⟩ :=
    Action.yields_completeNodes some_node one_map acting done
  rw [Snapshot.propagate_eq] at resolved completed ⊢
  obtain ⟨resolved_eq, tables₁, last₁⟩ := h.storeResolved seated ext resolved
  have lawful₁ : s₁.Lawful := h.lawful.insert resolved
  have same : s₁.tables.histories = s.tables.histories := by rw [tables₁]
  obtain ⟨completed_eq, tables₂, -⟩ := h.storeCompleted seated ext lawful₁ same completed
  have books : c.Books (.ofRun ((s.tables.snapshot map scope).run (nodes.map (·.id))) scope now)
      s s' := by
    refine ⟨resolved_eq, ?_, ?_⟩
    · rw [completed_eq, last₁ .histories (by decide)]
    · rw [tables₂, tables₁]
      rfl
  refine ⟨books, lawful₁.insert completed, books.booked ext h, ?_⟩
  rw [books.tables]
  exact h.positive

end Store.Sound

end LearningMap
