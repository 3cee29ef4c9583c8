import LearningMap.Proofs.Graph.Settled
import LearningMap.Proofs.Service.Completion

/-!
# Satisfied rules on the tables

What a scope has resolved and recorded, told on the rows of the tables and not map by map. Where all
rows that hang together carry one map, a loaded snapshot says the same: a live rule is earned in the
snapshot of its map exactly if it is fully resolved on the tables.
-/

namespace LearningMap

namespace Tables

/-- An arrow carries the map of its start node, of its rule, of the node of its rule and of its
question. -/
structure MapConsistent (t : Tables) : Prop where
  start : ∀ a ∈ t.arrows, ∀ n ∈ t.nodes, n.id = a.start → n.map = a.map
  rule : ∀ a ∈ t.arrows, ∀ q ∈ t.rules, q.id = a.rule → q.map = a.map
  target : ∀ a ∈ t.arrows, ∀ q ∈ t.rules, q.id = a.rule → ∀ n ∈ t.nodes, n.id = q.node →
    n.map = a.map
  question : ∀ a ∈ t.arrows, ∀ q ∈ t.questions, a.question = some q.id → q.map = a.map

theorem MapConsistent.book {t : Tables} (h : t.MapConsistent) (ps : List Row.ArrowProgress)
    (hs : List Row.NodeHistory) : (t.book ps hs).MapConsistent :=
  ⟨h.start, h.rule, h.target, h.question⟩

def Resolved (t : Tables) (scope : Scope) (arrow : Id) : Prop :=
  ∃ r ∈ t.progresses, r.resolved = true ∧ t.visible scope r.member r.seat = true ∧ r.arrow = arrow

/-- A scope has completed a node through a rule. -/
def Recorded (t : Tables) (scope : Scope) (rule : Id) : Prop :=
  ∃ r ∈ t.histories, t.visible scope r.member r.seat = true ∧ r.rule = rule

/-- A rule has a live arrow, and a scope has resolved all its live arrows. -/
def FullyResolved (t : Tables) (scope : Scope) (rule : Id) : Prop :=
  (∃ a ∈ t.arrows, a.deletedAt = none ∧ a.rule = rule) ∧
    ∀ a ∈ t.arrows, a.deletedAt = none → a.rule = rule → t.Resolved scope a.id

variable {t : Tables} {scope : Scope}

theorem resolved_iff_exists_map {i : Id} :
    t.Resolved scope i ↔ ∃ map, i ∈ (t.snapshot map scope).progress.arrows := by
  simp only [mem_arrows_snapshot, Shows, Resolved]
  constructor
  · rintro ⟨r, hr, done, seen, same⟩
    exact ⟨r.map, r, hr, done, seen, rfl, same⟩
  · rintro ⟨_, r, hr, done, seen, -, same⟩
    exact ⟨r, hr, done, seen, same⟩

theorem Resolved.congr {a b : Scope} (shares : a.Shares b) {i : Id} :
    t.Resolved a i ↔ t.Resolved b i := by
  simp only [resolved_iff_exists_map, snapshot_congr shares]

theorem mem_arrowsInto {rule i : Id} :
    i ∈ t.arrowsInto rule ↔ ∃ a ∈ t.arrows, a.deletedAt = none ∧ a.rule = rule ∧ a.id = i := by
  simp only [arrowsInto, List.mem_map, mem_byId, List.mem_filter, Bool.and_eq_true, beq_iff_eq,
    Option.isNone_iff_eq_none]
  exact exists_congr fun a => ⟨fun ⟨⟨ha, hr, live⟩, hi⟩ => ⟨ha, live, hr, hi⟩,
    fun ⟨ha, live, hr, hi⟩ => ⟨⟨ha, hr, live⟩, hi⟩⟩

theorem nodup_arrowsInto (distinct : (t.arrows.map (·.id)).Nodup) (rule : Id) :
    (t.arrowsInto rule).Nodup :=
  ((List.mergeSort_perm _ _).map _).nodup_iff.mpr ((List.filter_sublist.map _).nodup distinct)

theorem mem_resolvedAmong {arrows : List Id} {i : Id} :
    i ∈ t.resolvedAmong arrows scope ↔ i ∈ arrows ∧ t.Resolved scope i := by
  simp only [resolvedAmong, resolvedRows, IdSet.mem_ofList, List.mem_map, List.mem_filter,
    Bool.and_eq_true, List.contains_iff_mem, Resolved]
  constructor
  · rintro ⟨r, ⟨⟨hr, done, seen⟩, among⟩, rfl⟩
    exact ⟨among, r, hr, done, seen, rfl⟩
  · rintro ⟨among, r, hr, done, seen, rfl⟩
    exact ⟨r, ⟨⟨hr, done, seen⟩, among⟩, rfl⟩

theorem isSome_resolution? {arrow : Id} :
    (t.resolution? arrow scope).isSome = true ↔ t.Resolved scope arrow := by
  unfold resolution?
  rw [List.isSome_head?, ← List.isEmpty_eq_false_iff, List.isEmpty_eq_false_iff_exists_mem]
  simp only [mem_byId, resolvedRows, List.mem_filter, Bool.and_eq_true, beq_iff_eq, Resolved]
  constructor
  · rintro ⟨r, ⟨hr, done, seen⟩, same⟩
    exact ⟨r, hr, done, seen, same⟩
  · rintro ⟨r, hr, done, seen, same⟩
    exact ⟨r, ⟨hr, done, seen⟩, same⟩

/-- The check that goes before a completion asks whether a rule is fully resolved. -/
theorem check_iff_fullyResolved (t : Tables) (distinct : (t.arrows.map (·.id)).Nodup)
    (scope : Scope) (rule : Id) :
    (!(t.arrowsInto rule).isEmpty &&
        (t.resolvedAmong (t.arrowsInto rule) scope).size == (t.arrowsInto rule).length) = true ↔
      t.FullyResolved scope rule := by
  have among : ∀ i ∈ t.resolvedAmong (t.arrowsInto rule) scope, i ∈ t.arrowsInto rule :=
    fun i hi => (mem_resolvedAmong.mp hi).1
  have some_arrow : (!(t.arrowsInto rule).isEmpty) = true ↔
      ∃ a ∈ t.arrows, a.deletedAt = none ∧ a.rule = rule := by
    rw [Bool.not_eq_true', List.isEmpty_eq_false_iff_exists_mem]
    simp only [mem_arrowsInto]
    constructor
    · rintro ⟨_, a, ha, live, hrule, -⟩
      exact ⟨a, ha, live, hrule⟩
    · rintro ⟨a, ha, live, hrule⟩
      exact ⟨a.id, a, ha, live, hrule, rfl⟩
  rw [Bool.and_eq_true, beq_iff_eq, some_arrow,
    IdSet.size_eq_length_iff (nodup_arrowsInto distinct rule) among]
  refine and_congr_right fun _ => ?_
  constructor
  · intro all a ha live hrule
    exact (mem_resolvedAmong.mp (all a.id (mem_arrowsInto.mpr ⟨a, ha, live, hrule, rfl⟩))).2
  · intro all i hi
    obtain ⟨a, ha, live, hrule, rfl⟩ := mem_arrowsInto.mp hi
    exact mem_resolvedAmong.mpr ⟨hi, all a ha live hrule⟩

theorem ruleOf?_eq_some_iff (distinct : (t.rules.map (·.id)).Nodup) {a : Row.Arrow} {q : Row.Rule} :
    t.ruleOf? a = some q ↔ q ∈ t.rules ∧ q.deletedAt = none ∧ q.id = a.rule :=
  (find?_key_eq_some_iff distinct).trans (by rw [Option.isNone_iff_eq_none, and_comm (a := _ = _)])

end Tables

namespace Store.Sound

variable {s : Store} {scope : Scope} (h : s.Sound)
include h

theorem mem_arrows_iff {a : Row.Arrow} (ha : a ∈ s.tables.arrows) :
    a.id ∈ (s.tables.snapshot a.map scope).progress.arrows ↔ s.tables.Resolved scope a.id := by
  rw [Tables.mem_arrows_snapshot]
  constructor
  · rintro ⟨r, hr, done, seen, -, harrow⟩
    exact ⟨r, hr, done, seen, harrow⟩
  · rintro ⟨r, hr, done, seen, harrow⟩
    exact ⟨r, hr, done, seen, h.booked.map_of_arrow r hr a ha harrow.symm, harrow⟩

theorem mem_rules_iff {q : Row.Rule} (hq : q ∈ s.tables.rules) :
    q.id ∈ (s.tables.snapshot q.map scope).progress.rules ↔ s.tables.Recorded scope q.id := by
  rw [Tables.mem_rules_snapshot]
  constructor
  · rintro ⟨_, r, hr, seen, -, -, hrule⟩
    exact ⟨r, hr, seen, hrule⟩
  · rintro ⟨r, hr, seen, hrule⟩
    exact ⟨r.node, r, hr, seen, h.booked.map_of_rule r hr q hq hrule.symm, rfl, hrule⟩

variable (consistent : s.tables.MapConsistent)
include consistent

/-- The arrows into a live rule in the snapshot of its map are all its live arrows. -/
theorem mem_ruleArrows_iff {q : Row.Rule} (hq : q ∈ s.tables.rules) (live : q.deletedAt = none)
    {i : Id} :
    i ∈ (s.tables.snapshot q.map scope).ruleArrows q.id ↔ i ∈ s.tables.arrowsInto q.id := by
  rw [Tables.mem_ruleArrows_snapshot, Tables.mem_arrowsInto]
  constructor
  · rintro ⟨e, he, -, hrule, hid⟩
    obtain ⟨a, ha, alive, r, -, rfl⟩ := Tables.mem_edges.mp he
    exact ⟨a, ha, alive, hrule, hid⟩
  · rintro ⟨a, ha, alive, hrule, hid⟩
    have found : s.tables.ruleOf? a = some q :=
      (Tables.ruleOf?_eq_some_iff h.lawful.nodup_rules).mpr ⟨hq, live, hrule.symm⟩
    have same_map : a.map = q.map := (consistent.rule a ha q hq hrule.symm).symm
    exact ⟨_, Tables.mem_edges.mpr ⟨a, ha, alive, q, found, rfl⟩, same_map, hrule, hid⟩

theorem earned_iff {q : Row.Rule} (hq : q ∈ s.tables.rules) (live : q.deletedAt = none) :
    (s.tables.snapshot q.map scope).Earned
        (s.tables.snapshot q.map scope).progress.arrows.toSet q.id ↔
      s.tables.FullyResolved scope q.id := by
  simp only [Snapshot.Earned, h.mem_ruleArrows_iff consistent hq live, Tables.mem_arrowsInto,
    IdSet.mem_toSet]
  constructor
  · rintro ⟨⟨_, a, ha, alive, hrule, -⟩, all⟩
    refine ⟨⟨a, ha, alive, hrule⟩, fun b hb blive brule => ?_⟩
    rw [← h.mem_arrows_iff hb, ← consistent.rule b hb q hq brule.symm]
    exact all b.id ⟨b, hb, blive, brule, rfl⟩
  · rintro ⟨⟨a, ha, alive, hrule⟩, all⟩
    refine ⟨⟨a.id, a, ha, alive, hrule, rfl⟩, ?_⟩
    rintro _ ⟨b, hb, blive, brule, rfl⟩
    rw [consistent.rule b hb q hq brule.symm, h.mem_arrows_iff hb]
    exact all b hb blive brule

theorem recorded_iff_fullyResolved {q : Row.Rule} (hq : q ∈ s.tables.rules)
    (live : q.deletedAt = none) (settled : (s.tables.snapshot q.map scope).Settled) :
    s.tables.Recorded scope q.id ↔ s.tables.FullyResolved scope q.id := by
  have found : (s.tables.snapshot q.map scope).rules[q.id]? = some ⟨q.id, q.map, q.node⟩ :=
    (Tables.getElem?_rules_snapshot h.lawful.nodup_rules).mpr ⟨q, hq, live, rfl, rfl, rfl⟩
  rw [← h.mem_rules_iff hq, settled.recorded_iff found, h.earned_iff consistent hq live]

end Store.Sound

end LearningMap
