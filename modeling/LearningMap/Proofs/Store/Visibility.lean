import LearningMap.Proofs.Graph.Run
import LearningMap.Proofs.Store.Lawful

/-!
# What a scope sees

A row is visible to every scope that shares progress with the scope that stored it, and to no other
one: `Tables.visible_iff_shares`. Graph and progress of a snapshot that is loaded from the tables are
told row by row here, so that nobody has to look into the queries again.
-/

namespace LearningMap

namespace Scope

/-- Two scopes share progress: members seated in one play, or one member alone. -/
def Shares (a b : Scope) : Prop := a.lockKey = b.lockKey ∧ a.play.isSome = b.play.isSome

instance (a b : Scope) : Decidable (a.Shares b) := inferInstanceAs (Decidable (_ ∧ _))

@[simp] theorem shares_solo {m n : Id} : (solo m).Shares (solo n) ↔ m = n := by
  simp [Shares, lockKey, play]

@[simp] theorem shares_seated {m n s u p q : Id} :
    (seated m s p).Shares (seated n u q) ↔ p = q := by
  simp [Shares, lockKey, play]

@[simp] theorem not_solo_shares_seated {m n s p : Id} : ¬ (solo m).Shares (seated n s p) := by
  simp [Shares, play]

@[simp] theorem not_seated_shares_solo {m n s p : Id} : ¬ (seated n s p).Shares (solo m) := by
  simp [Shares, play]

theorem Shares.refl (a : Scope) : a.Shares a := ⟨rfl, rfl⟩

end Scope

namespace Tables

variable {t : Tables} {scope : Scope}

theorem visible_congr {a b : Scope} (h : a.Shares b) (member : Id) (seat : Option Id) :
    t.visible a member seat = t.visible b member seat := by
  cases a with
  | solo m =>
    cases b with
    | solo n => rw [Scope.shares_solo.mp h]
    | seated n s p => exact absurd h Scope.not_solo_shares_seated
  | seated m s p =>
    cases b with
    | solo n => exact absurd h Scope.not_seated_shares_solo
    | seated n u q =>
      obtain rfl := Scope.shares_seated.mp h
      rfl

/-- The seat of a scope, if it has one, is a seat of its play. -/
def SeatedIn (t : Tables) (scope : Scope) : Prop :=
  ∀ s p, scope.seat = some s → scope.play = some p → ∃ r ∈ t.seats, r.id = s ∧ r.play = p

theorem SeatedIn.mem_seats (h : t.SeatedIn scope) {i : Id} (hi : scope.seat = some i) :
    i ∈ t.ids .seats := by
  cases scope with
  | solo m => cases hi
  | seated m i' p =>
    cases hi
    obtain ⟨r, hr, rfl, -⟩ := h i p rfl rfl
    exact List.mem_map_of_mem hr

/-- A scope sees what it stores. -/
theorem visible_self (seated : t.SeatedIn scope) :
    t.visible scope scope.member scope.seat = true := by
  cases scope with
  | solo m => simp [visible, Scope.member, Scope.seat]
  | seated m s p =>
    obtain ⟨r, hr, hid, hplay⟩ := seated s p rfl rfl
    exact List.any_eq_true.mpr ⟨r, hr, by simp [hid, hplay]⟩

/-- Scopes that see one row share progress: a seat is one of a single play, and a member alone sees no
row of a seat. -/
theorem shares_of_visible (distinct : (t.seats.map (·.id)).Nodup) {a b : Scope} {member : Id}
    {seat : Option Id} (seen : t.visible a member seat = true)
    (seen' : t.visible b member seat = true) : a.Shares b := by
  cases a with
  | solo m =>
    simp only [visible, Bool.and_eq_true, beq_iff_eq, Option.isNone_iff_eq_none] at seen
    obtain ⟨rfl, rfl⟩ := seen
    cases b with
    | solo n => simpa [visible] using seen'
    | seated n u q => cases seen'
  | seated m s p =>
    cases b with
    | solo n =>
      simp only [visible, Bool.and_eq_true, Option.isNone_iff_eq_none] at seen'
      obtain ⟨-, rfl⟩ := seen'
      cases seen
    | seated n u q =>
      obtain ⟨i, rfl⟩ : ∃ i, seat = some i := by
        cases seat with
        | none => cases seen
        | some i => exact ⟨i, rfl⟩
      obtain ⟨r, hr, here⟩ := List.any_eq_true.mp seen
      obtain ⟨r', hr', there⟩ := List.any_eq_true.mp seen'
      rw [Bool.and_eq_true, beq_iff_eq, beq_iff_eq] at here there
      have same : r' = r := List.inj_on_of_nodup_map distinct hr' hr (there.1.trans here.1.symm)
      rw [Scope.shares_seated, ← here.2, ← there.2, same]

/-- What a scope stores is visible to the scopes that share progress with it and to no other. -/
theorem visible_iff_shares (distinct : (t.seats.map (·.id)).Nodup) (seated : t.SeatedIn scope)
    (other : Scope) :
    t.visible other scope.member scope.seat = true ↔ other.Shares scope := by
  constructor
  · intro seen
    exact shares_of_visible distinct seen (visible_self seated)
  · intro shares
    rw [visible_congr shares]
    exact visible_self seated

theorem mem_byId {ρ : Type} [Entity ρ] {rows : List ρ} {r : ρ} : r ∈ byId rows ↔ r ∈ rows :=
  (List.mergeSort_perm rows _).mem_iff

theorem byId_ascending {ρ : Type} [Entity ρ] (rows : List ρ) :
    (byId rows).Pairwise (Entity.id · ≤ Entity.id ·) :=
  pairwise_mergeSort_key Entity.id rows

theorem byId_strictly_ascending {ρ : Type} [Entity ρ] {rows : List ρ}
    (distinct : (rows.map Entity.id).Nodup) :
    (byId rows).Pairwise (Entity.id · < Entity.id ·) := by
  have differ : (byId rows).Pairwise (Entity.id · ≠ Entity.id ·) :=
    List.pairwise_map.mp (((List.mergeSort_perm rows _).map Entity.id).nodup_iff.mpr distinct)
  exact ((byId_ascending rows).and differ).imp Int.lt_iff_le_and_ne.mpr

/-- The first row in the order of identifiers has the least identifier. -/
theorem id_le_of_head?_byId {ρ : Type} [Entity ρ] {rows : List ρ} {r : ρ}
    (first : (byId rows).head? = some r) : ∀ o ∈ rows, Entity.id r ≤ Entity.id o := by
  obtain ⟨rest, sorted⟩ := List.head?_eq_some_iff.mp first
  have ascending := byId_ascending rows
  rw [sorted] at ascending
  intro o ho
  rw [← mem_byId, sorted] at ho
  rcases List.mem_cons.mp ho with rfl | ho
  · exact Int.le_refl _
  · exact List.rel_of_pairwise_cons ascending ho

/-- Where keys are distinct, a search for a key finds the element that has it. -/
theorem find?_key_eq_some_iff {α : Type} {key : α → Id} {p : α → Bool} {as : List α}
    (distinct : (as.map key).Nodup) {k : Id} {a : α} :
    as.find? (fun b => key b == k && p b) = some a ↔ a ∈ as ∧ key a = k ∧ p a = true := by
  constructor
  · intro h
    have found := List.find?_some h
    rw [Bool.and_eq_true, beq_iff_eq] at found
    exact ⟨List.mem_of_find?_eq_some h, found⟩
  · rintro ⟨ha, rfl, holds⟩
    have found : (as.find? fun b => key b == key a && p b).isSome = true :=
      List.find?_isSome.mpr ⟨a, ha, by simp [holds]⟩
    obtain ⟨b, h⟩ := Option.isSome_iff_exists.mp found
    have same := List.find?_some h
    rw [Bool.and_eq_true, beq_iff_eq] at same
    rw [h, List.inj_on_of_nodup_map distinct (List.mem_of_find?_eq_some h) ha same.1]

theorem question?_eq_some_iff (distinct : (t.questions.map (·.id)).Nodup) {id : Id}
    {q : Row.Question} :
    t.question? id = some q ↔ q ∈ t.questions ∧ q.id = id ∧ q.deletedAt = none :=
  (find?_key_eq_some_iff distinct).trans (by rw [Option.isNone_iff_eq_none])

theorem mem_of_node? {id : Id} {n : Row.Node} (h : t.node? id = some n) :
    n ∈ t.nodes ∧ n.id = id ∧ n.deletedAt = none := by
  have found := List.find?_some h
  simp only [Bool.and_eq_true, beq_iff_eq, Option.isNone_iff_eq_none] at found
  exact ⟨List.mem_of_find?_eq_some h, found⟩

theorem id_of_question? {id : Id} {q : Row.Question} (h : t.question? id = some q) : q.id = id := by
  have found := List.find?_some h
  rw [Bool.and_eq_true, beq_iff_eq] at found
  exact found.1

theorem mem_of_answer? {id : Id} {a : Row.Answer} (h : t.answer? id = some a) :
    a ∈ t.answers ∧ a.id = id :=
  ⟨List.mem_of_find?_eq_some h, by simpa using List.find?_some h⟩

theorem mem_of_arrowOf? {question : Id} {a : Row.Arrow} (h : t.arrowOf? question = some a) :
    a ∈ t.arrows ∧ a.question = some question ∧ a.deletedAt = none := by
  have among := List.mem_of_mem_head? (Option.mem_def.mpr h)
  rw [mem_byId, List.mem_filter, Bool.and_eq_true, beq_iff_eq, Option.isNone_iff_eq_none] at among
  exact among

theorem mem_of_seating? {id : Id} {found : Seating} (h : t.seating? id = some found) :
    found.seat ∈ t.seats ∧ found.seat.id = id := by
  unfold seating? at h
  simp only [bind, Option.bind_eq_some_iff, pure, Option.some.injEq] at h
  obtain ⟨seat, hseat, play, -, rfl⟩ := h
  exact ⟨List.mem_of_find?_eq_some hseat, by simpa using List.find?_some hseat⟩

theorem seatedIn_of_seating? {id member : Id} {found : Seating} (h : t.seating? id = some found) :
    t.SeatedIn (.seated member found.seat.id found.seat.play) := by
  rintro _ _ ⟨⟩ ⟨⟩
  exact ⟨found.seat, (mem_of_seating? h).1, rfl, rfl⟩

theorem seatedIn_solo (t : Tables) (member : Id) : t.SeatedIn (.solo member) := by
  rintro _ _ ⟨⟩

/-- A row of progress says that a scope has resolved an arrow of a map. -/
def Shows (t : Tables) (scope : Scope) (map arrow : Id) (r : Row.ArrowProgress) : Prop :=
  r.resolved = true ∧ t.visible scope r.member r.seat = true ∧ r.map = map ∧ r.arrow = arrow

/-- A row of history says that a scope has completed a node of a map through a rule. -/
def Records (t : Tables) (scope : Scope) (map node rule : Id) (r : Row.NodeHistory) : Prop :=
  t.visible scope r.member r.seat = true ∧ r.map = map ∧ r.node = node ∧ r.rule = rule

variable {map : Id}

theorem mem_resolvedArrows {arrow : Id} :
    arrow ∈ t.resolvedArrows map scope ↔ ∃ r ∈ t.progresses, t.Shows scope map arrow r := by
  simp only [resolvedArrows, resolvedRows, IdSet.mem_ofList, List.mem_map, List.mem_filter,
    Bool.and_eq_true, beq_iff_eq, Shows, and_assoc]

theorem mem_completedPairs {node rule : Id} :
    (node, rule) ∈ t.completedPairs map scope ↔
      ∃ r ∈ t.histories, t.Records scope map node rule r := by
  simp only [completedPairs, completedRows, List.mem_eraseDups, List.mem_mergeSort, List.mem_map,
    List.mem_filter, Bool.and_eq_true, beq_iff_eq, Prod.mk.injEq, Records]
  exact exists_congr fun r => ⟨fun ⟨⟨hr, hm, hv⟩, hn, hi⟩ => ⟨hr, hv, hm, hn, hi⟩,
    fun ⟨hr, hv, hm, hn, hi⟩ => ⟨⟨hr, hm, hv⟩, hn, hi⟩⟩

theorem mem_completedNodes {node : Id} :
    node ∈ t.completedNodes map scope ↔ ∃ rule, (node, rule) ∈ t.completedPairs map scope := by
  simp only [mem_completedPairs, completedNodes, completedRows, IdSet.mem_ofList, List.mem_map,
    List.mem_filter, Bool.and_eq_true, beq_iff_eq, Records]
  constructor
  · rintro ⟨r, ⟨hr, hm, hv⟩, hn⟩
    exact ⟨r.rule, r, hr, hv, hm, hn, rfl⟩
  · rintro ⟨_, r, hr, hv, hm, hn, -⟩
    exact ⟨r, ⟨hr, hm, hv⟩, hn⟩

theorem mem_edges {e : Edge} :
    e ∈ t.edges ↔ ∃ a ∈ t.arrows, a.deletedAt = none ∧ ∃ r, t.ruleOf? a = some r ∧
      e = { id := a.id, map := a.map, start := a.start, rule := a.rule, target := r.node,
            question := a.question } := by
  simp only [edges, List.mem_filterMap, mem_byId, List.mem_filter, Option.isNone_iff_eq_none,
    Option.map_eq_some_iff, and_assoc]
  refine exists_congr fun a => and_congr_right fun _ => and_congr_right fun _ => ?_
  exact exists_congr fun r => and_congr_right fun _ => eq_comm

theorem nodup_id_edges (distinct : (t.arrows.map (·.id)).Nodup) :
    (t.edges.map (·.id)).Nodup := by
  have live : ((byId (t.arrows.filter (·.deletedAt.isNone))).map (·.id)).Nodup :=
    ((List.mergeSort_perm _ _).map _).nodup_iff.mpr ((List.filter_sublist.map _).nodup distinct)
  refine live.sublist ?_
  unfold edges
  generalize byId (t.arrows.filter (·.deletedAt.isNone)) = as
  induction as with
  | nil => exact List.Sublist.refl _
  | cons a as ih =>
    rw [List.filterMap_cons]
    cases t.ruleOf? a with
    | none => exact (ih).trans (List.sublist_cons_self _ _)
    | some r => exact ih.cons_cons _

theorem snapshot_wellFormed (distinct : (t.arrows.map (·.id)).Nodup) :
    (t.snapshot map scope).WellFormed := by
  apply Snapshot.build_wellFormed
  rw [List.map_map]
  exact (List.filter_sublist.map _).nodup (nodup_id_edges distinct)

theorem edges_congr {t' : Tables} (arrows : t'.arrows = t.arrows) (rules : t'.rules = t.rules) :
    t'.edges = t.edges := by
  unfold edges ruleOf?
  rw [arrows, rules]

/-- The graph of a loaded snapshot is a matter of arrows and rules alone. -/
theorem graph_snapshot_congr {t' : Tables} (arrows : t'.arrows = t.arrows)
    (rules : t'.rules = t.rules) (scope scope' : Scope) :
    (t'.snapshot map scope').graph = (t.snapshot map scope).graph := by
  have edges_eq : t'.edgesOf map = t.edgesOf map := by
    unfold edgesOf
    rw [edges_congr arrows rules]
  have rules_eq : t'.rulesOf map = t.rulesOf map := by
    unfold rulesOf
    rw [rules]
  unfold snapshot
  rw [edges_eq, rules_eq]
  exact Snapshot.graph_build_congr _ _

@[simp] theorem map_snapshot : (t.snapshot map scope).map = map := Snapshot.map_build

theorem snapshot_congr {a b : Scope} (h : a.Shares b) : t.snapshot map a = t.snapshot map b := by
  have same : t.visible a = t.visible b := by
    funext member seat
    exact visible_congr h member seat
  simp only [snapshot, resolvedArrows, resolvedRows, completedPairs, completedRows, same]

theorem mem_outgoing_snapshot {n : Id} {a : Arrow} :
    a ∈ (t.snapshot map scope).outgoing n ↔
      ∃ e ∈ t.edges, e.map = map ∧ e.start = n ∧ e.toArrow = a := by
  rw [snapshot, Snapshot.mem_outgoing_build]
  simp only [edgesOf, List.mem_map, List.mem_filter, beq_iff_eq]
  constructor
  · rintro ⟨⟨e, ⟨he, hm⟩, rfl⟩, -, hs⟩
    exact ⟨e, he, hm, hs, rfl⟩
  · rintro ⟨e, he, hm, hs, rfl⟩
    exact ⟨⟨e, ⟨he, hm⟩, rfl⟩, hm, hs⟩

theorem arrow_of_resolved {run : Run} (ext : run.Extends (t.snapshot map scope)) {a : Arrow}
    (ha : a ∈ run.resolved) : ∃ row ∈ t.arrows, row.id = a.id ∧ row.map = a.map ∧ a.map = map := by
  obtain ⟨n, -, leaving⟩ := ext.outgoing a ha
  obtain ⟨e, he, on_map, -, rfl⟩ := mem_outgoing_snapshot.mp leaving
  obtain ⟨row, hrow, -, q, -, rfl⟩ := mem_edges.mp he
  exact ⟨row, hrow, rfl, rfl, on_map⟩

theorem mem_ruleArrows_snapshot {rule i : Id} :
    i ∈ (t.snapshot map scope).ruleArrows rule ↔
      ∃ e ∈ t.edges, e.map = map ∧ e.rule = rule ∧ e.id = i := by
  rw [snapshot, Snapshot.mem_ruleArrows_build]
  simp only [edgesOf, List.mem_map, List.mem_filter, beq_iff_eq]
  constructor
  · rintro ⟨_, ⟨e, ⟨he, hm⟩, rfl⟩, -, hr, hi⟩
    exact ⟨e, he, hm, hr, hi⟩
  · rintro ⟨e, he, hm, hr, hi⟩
    exact ⟨e.toArrow, ⟨e, ⟨he, hm⟩, rfl⟩, hm, hr, hi⟩

theorem mem_rulesOf {r : Rule} :
    r ∈ t.rulesOf map ↔
      ∃ q ∈ t.rules, q.deletedAt = none ∧ q.map = map ∧ r = ⟨q.id, q.map, q.node⟩ := by
  simp only [rulesOf, List.mem_map, mem_byId, List.mem_filter, Bool.and_eq_true, beq_iff_eq,
    Option.isNone_iff_eq_none]
  exact exists_congr fun q => ⟨fun ⟨⟨hq, hm, live⟩, h⟩ => ⟨hq, live, hm, h.symm⟩,
    fun ⟨hq, live, hm, h⟩ => ⟨⟨hq, hm, live⟩, h.symm⟩⟩

theorem nodup_id_rulesOf (distinct : (t.rules.map (·.id)).Nodup) :
    ((t.rulesOf map).map (·.id)).Nodup := by
  unfold rulesOf
  rw [List.map_map]
  exact ((List.mergeSort_perm _ _).map _).nodup_iff.mpr ((List.filter_sublist.map _).nodup distinct)

theorem getElem?_rules_snapshot (distinct : (t.rules.map (·.id)).Nodup) {i : Id} {r : Rule} :
    (t.snapshot map scope).rules[i]? = some r ↔
      ∃ q ∈ t.rules, q.deletedAt = none ∧ q.map = map ∧ q.id = i ∧ r = ⟨q.id, q.map, q.node⟩ := by
  rw [snapshot, Snapshot.rules_build, Snapshot.getElem?_indexRules_eq_some_iff
    ((List.filter_sublist.map _).nodup (nodup_id_rulesOf distinct)), List.mem_filter, mem_rulesOf]
  constructor
  · rintro ⟨⟨⟨q, hq, live, hm, rfl⟩, -⟩, hi⟩
    exact ⟨q, hq, live, hm, hi, rfl⟩
  · rintro ⟨q, hq, live, hm, hi, rfl⟩
    exact ⟨⟨⟨q, hq, live, hm, rfl⟩, by simpa using hm⟩, hi⟩

theorem mem_arrows_snapshot {i : Id} :
    i ∈ (t.snapshot map scope).progress.arrows ↔ ∃ r ∈ t.progresses, t.Shows scope map i r := by
  rw [snapshot, Snapshot.progress_build]
  simp only [IdSet.mem_ofList, Std.ExtTreeSet.mem_toList, mem_resolvedArrows]

theorem arrows_snapshot :
    (t.snapshot map scope).progress.arrows = t.resolvedArrows map scope := by
  rw [IdSet.ext_iff]
  intro i
  rw [mem_arrows_snapshot, mem_resolvedArrows]

theorem mem_nodes_snapshot {n : Id} :
    n ∈ (t.snapshot map scope).progress.nodes ↔
      ∃ rule, ∃ r ∈ t.histories, t.Records scope map n rule r := by
  rw [snapshot, Snapshot.progress_build]
  simp only [IdSet.mem_ofList, List.mem_map, Prod.exists, exists_and_right, exists_eq_right,
    mem_completedPairs]

theorem nodes_snapshot :
    (t.snapshot map scope).progress.nodes = t.completedNodes map scope := by
  rw [IdSet.ext_iff]
  intro n
  rw [mem_nodes_snapshot, mem_completedNodes]
  simp only [mem_completedPairs]

theorem mem_rules_snapshot {i : Id} :
    i ∈ (t.snapshot map scope).progress.rules ↔
      ∃ node, ∃ r ∈ t.histories, t.Records scope map node i r := by
  rw [snapshot, Snapshot.progress_build]
  simp only [IdSet.mem_ofList, List.mem_map, Prod.exists, exists_eq_right, mem_completedPairs]

end Tables

end LearningMap
