import LearningMap.Proofs.Service.Satisfaction

/-!
# Resolving arrows

A store is settled when every scope has recorded exactly the rules that it has satisfied. An arrow
that is resolved for a scope may leave satisfied rules unrecorded, though only on the map of the
arrow and for the scopes that share progress (`Store.SettledBut`). The completion from the start
node of the arrow records them. Where it is left out, since a rule of the arrow is still open or the
arrow was resolved before, there are none.
-/

namespace LearningMap

open Entity

namespace Store

/-- A store in which every scope has recorded exactly the rules that it satisfies. -/
structure Settled (s : Store) : Prop where
  sound : s.Sound
  consistent : s.tables.MapConsistent
  origin : ∀ r ∈ s.tables.histories, ∃ q ∈ s.tables.rules, q.deletedAt = none ∧ q.id = r.rule ∧
    q.node = r.node
  settled : ∀ map scope, (s.tables.snapshot map scope).Settled

/-- A store that is settled but for what a scope loads of a map. There, some rules may be satisfied
and not recorded. -/
structure SettledBut (s : Store) (map : Id) (scope : Scope) : Prop where
  sound : s.Sound
  consistent : s.tables.MapConsistent
  origin : ∀ r ∈ s.tables.histories, ∃ q ∈ s.tables.rules, q.deletedAt = none ∧ q.id = r.rule ∧
    q.node = r.node
  settled : ∀ map' other, map' ≠ map ∨ ¬ Scope.Shares other scope →
    (s.tables.snapshot map' other).Settled
  justified : (s.tables.snapshot map scope).Justified

variable {s s' : Store} {map : Id} {scope : Scope}

theorem Settled.settledBut (h : s.Settled) (map : Id) (scope : Scope) : s.SettledBut map scope :=
  { h with
    settled := fun map' other _ => h.settled map' other
    justified := (h.settled map scope).justified }

theorem SettledBut.settled_of (h : s.SettledBut map scope)
    (own : (s.tables.snapshot map scope).Settled) : s.Settled where
  sound := h.sound
  consistent := h.consistent
  origin := h.origin
  settled map' other := by
    by_cases differ : map' ≠ map ∨ ¬ other.Shares scope
    · exact h.settled map' other differ
    · push Not at differ
      obtain ⟨rfl, shares⟩ := differ
      rw [Tables.snapshot_congr shares]
      exact own

/-- Rows of a scope on a map that are booked leave a store settled but for that map, as long as what
was recorded is still earned. -/
theorem SettledBut.book (h : s.SettledBut map scope) (seated : s.tables.SeatedIn scope)
    {ps : List Row.ArrowProgress} {hs : List Row.NodeHistory} (own : Tables.OwnRows scope map ps hs)
    (tables : s'.tables = s.tables.book ps hs) (sound : s'.Sound)
    (origin : ∀ r ∈ hs, ∃ q ∈ s.tables.rules, q.deletedAt = none ∧ q.id = r.rule ∧ q.node = r.node)
    (justified : (s'.tables.snapshot map scope).Justified) : s'.SettledBut map scope where
  sound := sound
  consistent := by
    rw [tables]
    exact h.consistent.book ps hs
  origin := by
    rw [tables]
    intro r hr
    rcases List.mem_append.mp hr with old | new
    · exact h.origin r old
    · exact origin r new
  settled := by
    intro map' other differ
    rw [tables, own.snapshot_of_other h.sound.lawful.nodup_seats seated differ]
    exact h.settled map' other differ
  justified := justified

end Store

namespace Action

variable {s s' : Store} {scope : Scope} {now : Timestamp} {arrow : Row.Arrow} {c : Completion}

theorem yields_completeStart (done : (completeStart now arrow scope).Yields s c s') :
    ∃ start ∈ s.tables.nodes, start.id = arrow.start ∧
      (completeNodes now scope.toActor [start]).Yields s c s' := by
  unfold completeStart at done
  replace done := yields_query_bind.mp done
  obtain ⟨start, hstart, done⟩ := yields_orRefuse_bind.mp done
  obtain ⟨mem, hid, -⟩ := Tables.mem_of_node? hstart
  exact ⟨start, mem, hid, done⟩

end Action

namespace Store

variable {s s' : Store} {scope : Scope} {now : Timestamp} {arrow : Row.Arrow} {c : Completion}

theorem completeNodes_of_completeStart (consistent : s.tables.MapConsistent)
    (ha : arrow ∈ s.tables.arrows) (done : (Action.completeStart now arrow scope).Yields s c s') :
    ∃ start : Row.Node, (∀ n ∈ [start], n.map = arrow.map) ∧
      [start].map (·.id) = [arrow.start] ∧
      (Action.completeNodes now scope.toActor [start]).Yields s c s' := by
  obtain ⟨start, hstart, hid, done⟩ := Action.yields_completeStart done
  refine ⟨start, ?_, congrArg ([·]) hid, done⟩
  intro n hn
  obtain rfl := List.mem_singleton.mp hn
  exact consistent.start arrow ha n hstart hid

theorem Sound.books_completeStart (h : s.Sound) (consistent : s.tables.MapConsistent)
    (seated : s.tables.SeatedIn scope) (ha : arrow ∈ s.tables.arrows)
    (done : (Action.completeStart now arrow scope).Yields s c s') :
    c.Books (.ofRun ((s.tables.snapshot arrow.map scope).run [arrow.start]) scope now) s s' ∧
      s'.Sound := by
  obtain ⟨start, one_map, seeds, done⟩ := completeNodes_of_completeStart consistent ha done
  obtain ⟨books, sound⟩ := h.completeNodes seated (List.cons_ne_nil start []) one_map
    (Scope.scope?_toActor scope) done
  rw [Snapshot.propagate_eq, seeds] at books
  exact ⟨books, sound⟩

theorem activated_completeStart (consistent : s.tables.MapConsistent)
    (ha : arrow ∈ s.tables.arrows) (done : (Action.completeStart now arrow scope).Yields s c s') :
    c.activated =
      (Plan.ofRun ((s.tables.snapshot arrow.map scope).run [arrow.start]) scope now).activated := by
  obtain ⟨start, one_map, seeds, done⟩ := completeNodes_of_completeStart consistent ha done
  obtain ⟨_, -, -, -, activated⟩ := Action.yields_completeNodes (List.cons_ne_nil start []) one_map
    (Scope.scope?_toActor scope) done
  rwa [Snapshot.propagate_eq, seeds] at activated

/-- A completion from the start node of an arrow settles a store that is settled but for the map of
that arrow. -/
theorem SettledBut.completeStart (h : s.SettledBut arrow.map scope)
    (seated : s.tables.SeatedIn scope) (ha : arrow ∈ s.tables.arrows)
    (done : (Action.completeStart now arrow scope).Yields s c s') : s'.Settled := by
  obtain ⟨books, sound⟩ := h.sound.books_completeStart h.consistent seated ha done
  have wf : (s.tables.snapshot arrow.map scope).WellFormed := h.sound.wellFormed
  have ext := Snapshot.run_extends wf [arrow.start]
  have reloaded := books.snapshot_of_shares ext h.sound seated (.refl scope)
  have settled := h.justified.settled_run wf (List.cons_ne_nil arrow.start [])
  have origin : ∀ r ∈ c.completed, ∃ q ∈ s.tables.rules, q.deletedAt = none ∧ q.id = r.rule ∧
      q.node = r.node := by
    intro r hr
    obtain ⟨-, -, -, q, hq, hnode, hrule⟩ := books.row_of_completed hr
    obtain ⟨row, hrow, live, -, hid, heq⟩ :=
      (Tables.getElem?_rules_snapshot h.sound.lawful.nodup_rules).mp (ext.rule q hq)
    rw [heq] at hnode hrule
    exact ⟨row, hrow, live, hrule.symm, hnode.symm⟩
  have settled_but : s'.SettledBut arrow.map scope := by
    apply h.book seated (books.ownRows ext) books.tables sound origin
    rw [reloaded]
    exact settled.justified
  apply settled_but.settled_of
  rw [reloaded]
  exact settled

end Store

namespace Action

variable {s s' : Store} {scope : Scope} {now : Timestamp} {map arrow : Id}
  {row : Row.ArrowProgress} {made : Bool}

theorem yields_findOrResolve
    (done : (findOrResolve now map arrow scope).Yields s (row, made) s') :
    (made = false ∧ s' = s ∧ s.tables.Resolved scope arrow) ∨
      made = true ∧ ¬ s.tables.Resolved scope arrow ∧
        (storeResolved [⟨map, arrow, scope.member, scope.seat, now⟩]).Yields s [row] s' := by
  unfold findOrResolve at done
  replace done := yields_query_bind.mp done
  cases hfound : s.tables.resolution? arrow scope with
  | some old =>
    have resolved : s.tables.Resolved scope arrow := Tables.isSome_resolution?.mp (hfound ▸ rfl)
    simp only [hfound, yields_pure, Prod.mk.injEq] at done
    obtain ⟨⟨-, rfl⟩, rfl⟩ := done
    exact .inl ⟨rfl, rfl, resolved⟩
  | none =>
    have unresolved : ¬ s.tables.Resolved scope arrow := fun resolved =>
      absurd (Tables.isSome_resolution?.mpr resolved) (hfound ▸ Bool.false_ne_true)
    simp only [hfound] at done
    obtain ⟨new, s₁, stored, done⟩ := yields_bind.mp done
    obtain ⟨added, s₂, inserted, hnew⟩ := yields_bind.mp stored
    obtain ⟨rfl, rfl⟩ := yields_pure.mp hnew
    rcases yields_insert_singleton inserted with rfl | rfl
    · -- The insertion was passed over, so the arrow is as open as before.
      have same : s₂.tables = s.tables := by
        obtain ⟨_, -, -, rfl⟩ := yields_insert.mp inserted
        simp [rows, setRows]
      replace done := yields_query_bind.mp done
      cases hagain : s₂.tables.resolution? arrow scope with
      | none =>
        simp only [hagain] at done
        exact absurd done not_yields_reject
      | some old =>
        rw [same, hfound] at hagain
        cases hagain
    · obtain ⟨made_row, rfl⟩ := yields_pure.mp done
      cases made_row
      exact .inr ⟨rfl, unresolved, inserted⟩

theorem tables_of_storeResolved {resolution : ArrowResolution}
    (done : (storeResolved [resolution]).Yields s [row] s') :
    s'.tables = s.tables.book [row] [] := by
  obtain ⟨_, -, -, rfl⟩ := yields_insert.mp done
  simp [rows, setRows, Tables.book]

/-- The steps of a resolution: the arrow is found resolved and nothing follows, or a row is made for
it and completion spreads from its start node if the check says so. -/
theorem steps_of_resolveArrow {arrow : Row.Arrow} {r : Resolution}
    (done : (resolveArrow now arrow scope).Yields s r s') :
    (s' = s ∧ r = .empty ∧ s.tables.Resolved scope arrow.id) ∨
      ¬ s.tables.Resolved scope arrow.id ∧ ∃ row c s₁, r = ⟨some row, c⟩ ∧
        (storeResolved [⟨arrow.map, arrow.id, scope.member, scope.seat, now⟩]).Yields s [row] s₁ ∧
          if !(s₁.tables.arrowsInto arrow.rule).isEmpty &&
              (s₁.tables.resolvedAmong (s₁.tables.arrowsInto arrow.rule) scope).size ==
                (s₁.tables.arrowsInto arrow.rule).length
          then (completeStart now arrow scope).Yields s₁ c s'
          else s' = s₁ ∧ c = .empty := by
  unfold resolveArrow at done
  obtain ⟨_, -, done⟩ := (reads_lock scope).yields_bind.mp done
  obtain ⟨⟨row, made⟩, s₁, found, done⟩ := yields_bind.mp done
  rcases yields_findOrResolve found with ⟨rfl, same, resolved⟩ | ⟨rfl, still_open, stored⟩
  · obtain ⟨rfl, rfl⟩ := yields_pure.mp done
    exact .inl ⟨same, rfl, resolved⟩
  · replace done := yields_query_bind.mp done
    replace done := yields_query_bind.mp done
    split at done
    · rename_i gate
      obtain ⟨c, s₂, completed, done⟩ := yields_bind.mp done
      obtain ⟨rfl, rfl⟩ := yields_pure.mp done
      exact .inr ⟨still_open, row, c, s₁, rfl, stored, by rwa [if_pos gate]⟩
    · rename_i gate
      obtain ⟨rfl, rfl⟩ := yields_pure.mp done
      exact .inr ⟨still_open, row, .empty, s₁, rfl, stored, by rw [if_neg gate]; exact ⟨rfl, rfl⟩⟩

/-- The steps of an acceptance: the arrow is found resolved or a row is made for it, and completion
spreads from its start node either way. -/
theorem steps_of_acceptArrow {arrow : Row.Arrow} {r : Resolution}
    (done : (acceptArrow now arrow scope).Yields s r s') :
    ∃ c s₁, (completeStart now arrow scope).Yields s₁ c s' ∧
      ((s₁ = s ∧ r = ⟨none, c⟩ ∧ s.tables.Resolved scope arrow.id) ∨
        ¬ s.tables.Resolved scope arrow.id ∧ ∃ row, r = ⟨some row, c⟩ ∧
          (storeResolved [⟨arrow.map, arrow.id, scope.member, scope.seat, now⟩]).Yields s [row]
            s₁) := by
  unfold acceptArrow at done
  obtain ⟨_, -, done⟩ := (reads_lock scope).yields_bind.mp done
  obtain ⟨⟨row, made⟩, s₁, found, done⟩ := yields_bind.mp done
  obtain ⟨c, s₂, completed, done⟩ := yields_bind.mp done
  obtain ⟨rfl, rfl⟩ := yields_pure.mp done
  refine ⟨c, s₁, completed, ?_⟩
  rcases yields_findOrResolve found with ⟨rfl, same, resolved⟩ | ⟨rfl, still_open, stored⟩
  · exact .inl ⟨same, rfl, resolved⟩
  · exact .inr ⟨still_open, row, rfl, stored⟩

/-- An arrow was resolved before, or a row is made for it and completion spreads from its start node
if its rule is fully resolved with it. -/
theorem yields_resolveArrow {arrow : Row.Arrow} {r : Resolution}
    (distinct : (s.tables.arrows.map (·.id)).Nodup)
    (done : (resolveArrow now arrow scope).Yields s r s') :
    (s' = s ∧ s.tables.Resolved scope arrow.id) ∨
      ¬ s.tables.Resolved scope arrow.id ∧ ∃ row s₁,
        (storeResolved [⟨arrow.map, arrow.id, scope.member, scope.seat, now⟩]).Yields s [row] s₁ ∧
          ((s₁.tables.FullyResolved scope arrow.rule ∧
              ∃ c, (completeStart now arrow scope).Yields s₁ c s') ∨
            ¬ s₁.tables.FullyResolved scope arrow.rule ∧ s' = s₁) := by
  rcases steps_of_resolveArrow done with
    ⟨same, -, resolved⟩ | ⟨still_open, row, c, s₁, -, stored, rest⟩
  · exact .inl ⟨same, resolved⟩
  · refine .inr ⟨still_open, row, s₁, stored, ?_⟩
    have check : _ ↔ s₁.tables.FullyResolved scope arrow.rule :=
      s₁.tables.check_iff_fullyResolved (by rwa [tables_of_storeResolved stored]) scope arrow.rule
    split at rest
    · rename_i gate
      exact .inl ⟨check.mp gate, c, rest⟩
    · rename_i gate
      exact .inr ⟨fun full => gate (check.mpr full), rest.1⟩

end Action

namespace Store

variable {s s' : Store} {scope : Scope} {now : Timestamp} {arrow : Row.Arrow}
  {row : Row.ArrowProgress}

/-- Only answers and their files differ between two stores, and they do so lawfully. -/
structure SameProgress (s s' : Store) : Prop where
  lawful : s.Lawful → s'.Lawful
  tables : ∃ answers files, s'.tables = { s.tables with answers, answerFiles := files }

theorem SameProgress.trans {s₁ : Store} (h : SameProgress s s₁) (h' : SameProgress s₁ s') :
    SameProgress s s' where
  lawful hs := h'.lawful (h.lawful hs)
  tables := by
    obtain ⟨as, fs, first⟩ := h.tables
    obtain ⟨as', fs', second⟩ := h'.tables
    exact ⟨as', fs', by rw [second, first]⟩

theorem sameProgress_of_tables_eq (same : s'.tables = s.tables) (ahead : s.Ahead s') :
    SameProgress s s' where
  lawful hs := hs.mono same ahead
  tables := ⟨_, _, same⟩

theorem SameProgress.seatedIn (h : SameProgress s s') (seated : s.tables.SeatedIn scope) :
    s'.tables.SeatedIn scope := by
  obtain ⟨_, _, same⟩ := h.tables
  rwa [same]

theorem SameProgress.arrows_eq (h : SameProgress s s') : s'.tables.arrows = s.tables.arrows := by
  obtain ⟨_, _, same⟩ := h.tables
  rw [same]

theorem SameProgress.snapshot_eq (h : SameProgress s s') (map : Id) (scope : Scope) :
    s'.tables.snapshot map scope = s.tables.snapshot map scope := by
  obtain ⟨_, _, same⟩ := h.tables
  rw [same]
  rfl

theorem Settled.frame (h : s.Settled) (same : SameProgress s s') : s'.Settled := by
  obtain ⟨_, _, tables⟩ := same.tables
  refine ⟨⟨same.lawful h.sound.lawful, ?booked, ?positive⟩, ?consistent, ?origin, ?settled⟩
  case booked =>
    rw [tables]
    exact ⟨h.sound.booked.resolved, h.sound.booked.map_of_arrow, h.sound.booked.map_of_rule⟩
  case positive =>
    rw [tables]
    exact h.sound.positive
  case consistent =>
    rw [tables]
    exact ⟨h.consistent.start, h.consistent.rule, h.consistent.target, h.consistent.question⟩
  case origin =>
    rw [tables]
    exact h.origin
  case settled =>
    intro map scope
    rw [same.snapshot_eq]
    exact h.settled map scope

theorem row_of_storeResolved (done : (Action.storeResolved
    [⟨arrow.map, arrow.id, scope.member, scope.seat, now⟩]).Yields s [row] s') :
    Tables.OwnRows scope arrow.map [row] [] ∧ row.arrow = arrow.id := by
  obtain ⟨i, rfl⟩ : ∃ i, row =
      withId (⟨arrow.map, arrow.id, scope.member, scope.seat, now⟩ : ArrowResolution).toRow i := by
    rcases Action.yields_insert_singleton done with none | one
    · cases none
    · exact ⟨_, List.head_eq_of_cons_eq one⟩
  refine ⟨⟨fun r hr => ?_, by simp⟩, rfl⟩
  obtain rfl := List.mem_singleton.mp hr
  exact ⟨rfl, rfl, rfl, rfl⟩

/-- What a row that is made for an arrow does to a settled store. -/
theorem Settled.resolve (h : s.Settled) (seated : s.tables.SeatedIn scope)
    (ha : arrow ∈ s.tables.arrows)
    (done : (Action.storeResolved
      [⟨arrow.map, arrow.id, scope.member, scope.seat, now⟩]).Yields s [row] s') :
    s'.SettledBut arrow.map scope ∧ s'.tables = s.tables.book [row] [] ∧
      (s.tables.snapshot arrow.map scope).Adds [arrow.id] (s'.tables.snapshot arrow.map scope) := by
  have tables := Action.tables_of_storeResolved done
  obtain ⟨own, same_arrow⟩ := row_of_storeResolved done
  have progress : (s'.tables.snapshot arrow.map scope).progress =
      (s.tables.snapshot arrow.map scope).progress.resolve [arrow.id] := by
    have pairs : ([] : List Row.NodeHistory).map (fun r => (r.node, r.rule)) =
        ([] : List Rule).map fun q => (q.node, q.id) := rfl
    rw [tables, ← same_arrow]
    exact own.progress_of_shares h.sound.lawful.nodup_seats seated (.refl scope) pairs
  have adds : (s.tables.snapshot arrow.map scope).Adds [arrow.id]
      (s'.tables.snapshot arrow.map scope) := by
    refine ⟨?graph_eq, ?rules_eq, ?mem_arrows⟩
    case graph_eq =>
      rw [tables]
      exact Tables.graph_book scope
    case rules_eq =>
      rw [progress]
      rfl
    case mem_arrows =>
      intro i
      rw [progress]
      exact IdSet.mem_insertAll
  have sound : s'.Sound := by
    refine ⟨h.sound.lawful.insert done, ?booked, ?positive⟩
    case booked =>
      rw [tables]
      refine h.sound.booked.book (fun r hr => (own.resolved r hr).1) ?_ (by simp)
      intro r hr a ha' hid
      obtain rfl := List.mem_singleton.mp hr
      have same : a = arrow :=
        List.inj_on_of_nodup_map h.sound.lawful.nodup_arrows ha' ha (hid.trans same_arrow)
      rw [same]
      exact (own.resolved r hr).2.1
    case positive =>
      rw [tables]
      exact h.sound.positive
  refine ⟨?_, tables, adds⟩
  exact (h.settledBut arrow.map scope).book seated own tables sound (by simp)
    (adds.justified (h.settled arrow.map scope).justified)

theorem Settled.resolve_open (h : s.Settled) (seated : s.tables.SeatedIn scope)
    (ha : arrow ∈ s.tables.arrows)
    (done : (Action.storeResolved
      [⟨arrow.map, arrow.id, scope.member, scope.seat, now⟩]).Yields s [row] s')
    (unresolved : ¬ s'.tables.FullyResolved scope arrow.rule) : s'.Settled := by
  obtain ⟨settled_but, tables, adds⟩ := h.resolve seated ha done
  refine settled_but.settled_of ((h.settled arrow.map scope).resolve_one adds ?_)
  intro i hi earned
  -- Only the rule of the arrow has the arrow among its own, and it is not fully resolved.
  obtain ⟨e, he, -, hrule, hid⟩ := Tables.mem_ruleArrows_snapshot.mp hi
  obtain ⟨a, ha', -, q, hq, rfl⟩ := Tables.mem_edges.mp he
  have same : a = arrow := List.inj_on_of_nodup_map h.sound.lawful.nodup_arrows ha' ha hid
  subst same
  obtain ⟨hq, live, hqid⟩ := (Tables.ruleOf?_eq_some_iff h.sound.lawful.nodup_rules).mp hq
  have same_map : q.map = a.map := h.consistent.rule a ha q hq hqid
  rw [← same_map, ← hrule, ← hqid] at earned
  have stored : q ∈ s'.tables.rules := by
    rw [tables]
    exact hq
  rw [settled_but.sound.earned_iff settled_but.consistent stored live, hqid] at earned
  exact unresolved earned

theorem Settled.settledBut_of_stored (h : s.Settled) (seated : s.tables.SeatedIn scope)
    (ha : arrow ∈ s.tables.arrows) {s₁ : Store}
    (stored : (Action.storeResolved
      [⟨arrow.map, arrow.id, scope.member, scope.seat, now⟩]).Yields s [row] s₁) :
    s₁.SettledBut arrow.map scope ∧ s₁.tables.SeatedIn scope ∧ arrow ∈ s₁.tables.arrows := by
  obtain ⟨settled_but, tables, -⟩ := h.resolve seated ha stored
  rw [tables]
  exact ⟨settled_but, seated, ha⟩

theorem Settled.completeStart_of_stored (h : s.Settled) (seated : s.tables.SeatedIn scope)
    (ha : arrow ∈ s.tables.arrows) {s₁ : Store} {c : Completion}
    (stored : (Action.storeResolved
      [⟨arrow.map, arrow.id, scope.member, scope.seat, now⟩]).Yields s [row] s₁)
    (completed : (Action.completeStart now arrow scope).Yields s₁ c s') : s'.Settled := by
  obtain ⟨settled_but, seated₁, ha₁⟩ := h.settledBut_of_stored seated ha stored
  exact settled_but.completeStart seated₁ ha₁ completed

theorem Settled.resolveArrow (h : s.Settled) (seated : s.tables.SeatedIn scope)
    (ha : arrow ∈ s.tables.arrows) {r : Resolution}
    (done : (Action.resolveArrow now arrow scope).Yields s r s') : s'.Settled := by
  rcases Action.yields_resolveArrow h.sound.lawful.nodup_arrows done with
    ⟨rfl, -⟩ | ⟨-, row, s₁, stored, ⟨-, c, completed⟩ | ⟨unresolved, rfl⟩⟩
  · exact h
  · exact h.completeStart_of_stored seated ha stored completed
  · exact h.resolve_open seated ha stored unresolved

theorem Settled.acceptArrow (h : s.Settled) (seated : s.tables.SeatedIn scope)
    (ha : arrow ∈ s.tables.arrows) {r : Resolution}
    (done : (Action.acceptArrow now arrow scope).Yields s r s') : s'.Settled := by
  obtain ⟨c, s₁, completed, ⟨rfl, -⟩ | ⟨-, row, -, stored⟩⟩ := Action.steps_of_acceptArrow done
  · exact (h.settledBut arrow.map scope).completeStart seated ha completed
  · exact h.completeStart_of_stored seated ha stored completed

end Store

end LearningMap
