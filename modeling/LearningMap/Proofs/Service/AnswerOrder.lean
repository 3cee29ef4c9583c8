import LearningMap.Proofs.Service.Answering

/-!
# The order of correct answers

Completion spreads from the start node of an arrow only if the answer finishes the rule of the arrow.
Which of two answers does may depend on which comes first, so the order of two answers can matter,
though only through the arrows that leave the two start nodes.
-/

namespace LearningMap

namespace Tables

/-- All live arrows that leave a node are resolved. -/
def FullyLeft (t : Tables) (scope : Scope) (node : Id) : Prop :=
  ∀ e ∈ t.edges, e.start = node → t.Resolved scope e.id

def answered (t : Tables) (q₁ q₂ : Id) : List Row.Arrow :=
  (t.arrowOf? q₁).toList ++ (t.arrowOf? q₂).toList

variable {t : Tables} {scope : Scope}

/-- If neither of two arrows finishes its rule in one order, neither does in the other one. -/
theorem not_finishes_swap (distinct : (t.arrows.map (·.id)).Nodup) {resolved : Set Id}
    {a b : Row.Arrow} (ha : a ∈ t.arrows) (hb : b ∈ t.arrows) (late_b : ¬ t.Finishes resolved b)
    (late_a : ¬ t.Finishes (insert b.id resolved) a) :
    ¬ t.Finishes resolved a ∧ ¬ t.Finishes (insert a.id resolved) b := by
  constructor
  · rintro ⟨still_open, rest⟩
    refine late_a ⟨?_, fun i hi => (rest i hi).imp_left (Set.mem_insert_of_mem _)⟩
    rintro (same | before)
    · obtain rfl := List.inj_on_of_nodup_map distinct ha hb same
      exact late_b ⟨still_open, rest⟩
    · exact still_open before
  · rintro ⟨still_open, rest⟩
    rw [Set.mem_insert_iff, not_or] at still_open
    -- Another arrow of the rule was open at first. It can only be the first one.
    obtain ⟨i, hi, opened, other⟩ : ∃ i ∈ t.arrowsInto b.rule, i ∉ resolved ∧ i ≠ b.id := by
      by_contra none_open
      push Not at none_open
      exact late_b ⟨still_open.2, fun i hi => or_iff_not_imp_left.mpr (none_open i hi)⟩
    obtain rfl : i = a.id := ((rest i hi).resolve_right other).resolve_right opened
    obtain ⟨a', ha', -, rule, hid⟩ := mem_arrowsInto.mp hi
    obtain rfl := List.inj_on_of_nodup_map distinct ha' ha hid
    refine late_a ⟨?_, fun i hi => ?_⟩
    · rintro (same | before)
      · exact other same
      · exact opened before
    · rw [rule] at hi
      rcases rest i hi with (rfl | before) | rfl
      · exact .inr rfl
      · exact .inl (Set.mem_insert_of_mem _ before)
      · exact .inl (Set.mem_insert _ _)

theorem not_finishes_swap_of_options (distinct : (t.arrows.map (·.id)).Nodup) {resolved : Set Id}
    {a b : Option Row.Arrow} (ha : ∀ x ∈ a, x ∈ t.arrows) (hb : ∀ x ∈ b, x ∈ t.arrows)
    (late_b : ∀ x ∈ b, ¬ t.Finishes resolved x)
    (late_a : ∀ x ∈ a, ¬ t.Finishes ({i | ∃ x ∈ b, x.id = i} ∪ resolved) x) :
    (∀ x ∈ a, ¬ t.Finishes resolved x) ∧
      ∀ x ∈ b, ¬ t.Finishes ({i | ∃ x ∈ a, x.id = i} ∪ resolved) x := by
  have with_none : {i | ∃ x ∈ (none : Option Row.Arrow), x.id = i} ∪ resolved = resolved := by simp
  have with_some : ∀ y : Row.Arrow,
      {i | ∃ x ∈ some y, x.id = i} ∪ resolved = insert y.id resolved := by
    intro y
    ext i
    simp [eq_comm]
  cases b with
  | none =>
    rw [with_none] at late_a
    exact ⟨late_a, by simp⟩
  | some y =>
    cases a with
    | none =>
      rw [with_none]
      exact ⟨by simp, late_b⟩
    | some x =>
      rw [with_some] at late_a ⊢
      have swapped := not_finishes_swap distinct (ha x rfl) (hb y rfl) (late_b y rfl) (late_a x rfl)
      simpa using swapped

end Tables

namespace Store

variable {s s₁ : Store} {scope : Scope}

theorem Settled.map_of_start (h : s.Settled) {a b : Row.Arrow} (ha : a ∈ s.tables.arrows)
    (hb : b ∈ s.tables.arrows) (same : b.start = a.start) : b.map = a.map := by
  obtain ⟨n, hn, hid, hmap⟩ := h.node_of_start ha
  rw [← hmap, h.consistent.start b hb n hn (hid.trans same.symm)]

theorem Settled.fullyLeft_iff (h : s.Settled) {a : Row.Arrow} (ha : a ∈ s.tables.arrows) :
    s.tables.FullyLeft scope a.start ↔ (s.tables.snapshot a.map scope).Left a.start := by
  have resolved_iff : ∀ e ∈ s.tables.edges, e.start = a.start →
      e.map = a.map ∧ (s.tables.Resolved scope e.id ↔
        e.id ∈ (s.tables.snapshot a.map scope).progress.arrows) := by
    intro e he start
    obtain ⟨b, hb, -, q, -, rfl⟩ := Tables.mem_edges.mp he
    have same_map := h.map_of_start ha hb start
    exact ⟨same_map, by rw [← same_map, h.sound.mem_arrows_iff hb]⟩
  constructor
  · intro left b hb
    obtain ⟨e, he, -, start, rfl⟩ := Tables.mem_outgoing_snapshot.mp hb
    exact (resolved_iff e he start).2.mp (left e he start)
  · intro left e he start
    obtain ⟨same_map, iff⟩ := resolved_iff e he start
    exact iff.mpr (left _ (Tables.mem_outgoing_snapshot.mpr ⟨e, he, same_map, start, rfl⟩))

section Ends

variable {t u : Store} {given given' left left' : List Row.Arrow}

theorem Grows.resolved (h : s.Grows scope given left t) {i : Id}
    (before : s.tables.Resolved scope i) : t.tables.Resolved scope i := by
  obtain ⟨map, hi⟩ := Tables.resolved_iff_exists_map.mp before
  exact Tables.resolved_iff_exists_map.mpr ⟨map, (h map).subset hi⟩

theorem Grows.resolved_of_given (h : s.Grows scope given left t) {a : Row.Arrow} (ha : a ∈ given) :
    t.tables.Resolved scope a.id := by
  refine Tables.resolved_iff_exists_map.mpr ⟨a.map, (h a.map).least.1.given a.id ?_⟩
  exact List.mem_map_of_mem (List.mem_filter.mpr ⟨ha, beq_self_eq_true _⟩)

theorem Grows.fullyLeft (h : s.Grows scope given left t) (settled : t.Settled) {a : Row.Arrow}
    (ha : a ∈ left) (stored : a ∈ t.tables.arrows) : t.tables.FullyLeft scope a.start := by
  refine (settled.fullyLeft_iff stored).mpr ((h a.map).left a.start ?_)
  exact List.mem_map_of_mem (List.mem_filter.mpr ⟨ha, beq_self_eq_true _⟩)

/-- Two ways to grow by the same arrows resolve the same on all maps if and only if they agree on the
start nodes: from each, all live arrows are resolved in both or in neither. -/
theorem Grows.resolvedArrows_eq_iff (h : s.Grows scope given left t)
    (h' : s.Grows scope given' left' u) (settled : t.Settled) (settled' : u.Settled)
    (same : ∀ a, a ∈ given ↔ a ∈ given') {either : List Row.Arrow} (sub : left ⊆ either)
    (sub' : left' ⊆ either) (stored : either ⊆ t.tables.arrows) (stored' : either ⊆ u.tables.arrows) :
    (∀ map, t.tables.resolvedArrows map scope = u.tables.resolvedArrows map scope) ↔
      ∀ a ∈ either, t.tables.FullyLeft scope a.start ↔ u.tables.FullyLeft scope a.start := by
  have on_map : ∀ map, t.tables.resolvedArrows map scope = u.tables.resolvedArrows map scope ↔
      ∀ a ∈ either, a.map = map →
        (t.tables.FullyLeft scope a.start ↔ u.tables.FullyLeft scope a.start) := by
    intro map
    have same_ids : ∀ i, i ∈ (onMap map given).map (·.id) ↔ i ∈ (onMap map given').map (·.id) := by
      intro i
      simp only [onMap, List.mem_map, List.mem_filter, same]
    have starts : ∀ {as}, as ⊆ either →
        (onMap map as).map (·.start) ⊆ (onMap map either).map (·.start) := fun sub =>
      List.map_subset _ (List.filter_subset _ sub)
    rw [← Tables.arrows_snapshot, ← Tables.arrows_snapshot,
      (h map).arrows_eq_iff_left (h' map) same_ids (starts sub) (starts sub')]
    simp only [onMap, List.mem_map, List.mem_filter, beq_iff_eq]
    constructor
    · rintro agree a ha rfl
      rw [settled.fullyLeft_iff (stored ha), settled'.fullyLeft_iff (stored' ha)]
      exact agree a.start ⟨a, ⟨ha, rfl⟩, rfl⟩
    · rintro agree _ ⟨a, ⟨ha, rfl⟩, rfl⟩
      rw [← settled.fullyLeft_iff (stored ha), ← settled'.fullyLeft_iff (stored' ha)]
      exact agree a ha rfl
  simp only [on_map]
  exact ⟨fun agree a ha => agree a.map a ha rfl, fun agree map a ha _ => agree a ha⟩

end Ends

theorem Settled.completedNodes_eq {t u : Store} (h : t.Settled) (h' : u.Settled)
    (arrows : t.tables.arrows = u.tables.arrows) (rules : t.tables.rules = u.tables.rules)
    (resolved : ∀ map, t.tables.resolvedArrows map scope = u.tables.resolvedArrows map scope)
    (map : Id) : t.tables.completedNodes map scope = u.tables.completedNodes map scope := by
  have resolved_iff : ∀ i, t.tables.Resolved scope i ↔ u.tables.Resolved scope i := by
    intro i
    simp only [Tables.resolved_iff_exists_map, Tables.arrows_snapshot, resolved]
  rw [IdSet.ext_iff]
  intro n
  rw [h.mem_completedNodes_of_map_iff, h'.mem_completedNodes_of_map_iff]
  simp only [Tables.FullyResolved, arrows, rules, resolved_iff]

section Orders

variable {s₂ t u : Store} {a b : Option Row.Arrow} {left₁ left₂ left₁' left₂' : List Row.Arrow}
  (first : s.Answered scope a left₁ s₁) (second : s₁.Answered scope b left₂ t)
include first second

theorem Answered.arrows_eq_both : t.tables.arrows = s.tables.arrows :=
  second.arrows_eq.trans first.arrows_eq

theorem Answered.rules_eq_both : t.tables.rules = s.tables.rules :=
  second.rules_eq.trans first.rules_eq

theorem Answered.grows_both (h : s.Settled) :
    s.Grows scope (a.toList ++ b.toList) (left₁ ++ left₂) t :=
  first.grows.trans h second.grows

theorem Answered.sub_both : left₁ ++ left₂ ⊆ a.toList ++ b.toList :=
  List.append_subset.mpr ⟨fun _ hx => List.mem_append_left _ (first.sub hx),
    fun _ hx => List.mem_append_right _ (second.sub hx)⟩

theorem Answered.stored_both : a.toList ++ b.toList ⊆ t.tables.arrows := by
  intro x hx
  rw [second.arrows_eq]
  rcases List.mem_append.mp hx with hx | hx
  · rw [first.arrows_eq]
    exact first.stored x (Option.mem_toList.mp hx)
  · exact second.stored x (Option.mem_toList.mp hx)

theorem Answered.exists_fullyLeft (h : s.Settled) (some_left : left₁ ++ left₂ ≠ []) :
    ∃ x ∈ a.toList ++ b.toList, t.tables.FullyLeft scope x.start := by
  obtain ⟨x, hx⟩ := List.exists_mem_of_ne_nil _ some_left
  have among := first.sub_both second hx
  exact ⟨x, among, (first.grows_both second h).fullyLeft second.settled hx
    (first.stored_both second among)⟩

variable (second' : s.Answered scope b left₂' s₂) (first' : s₂.Answered scope a left₁' u)
include second' first'

theorem Answered.left_nil_swap (h : s.Settled) (late_b : left₂' = []) (late_a : left₁' = []) :
    left₁ = [] ∧ left₂ = [] := by
  have resolved := second'.alone late_b
  rw [second'.late_iff] at late_b
  rw [first'.late_iff, Tables.finishes_congr second'.arrows_eq, resolved] at late_a
  obtain ⟨early_a, early_b⟩ := Tables.not_finishes_swap_of_options h.sound.lawful.nodup_arrows
    first.stored second'.stored late_b late_a
  have late_first : left₁ = [] := first.late_iff.mpr early_a
  refine ⟨late_first, ?_⟩
  rw [second.late_iff, Tables.finishes_congr first.arrows_eq, first.alone late_first]
  exact early_b

omit first second second' first' in
theorem mem_swap (x : Row.Arrow) : x ∈ a.toList ++ b.toList ↔ x ∈ b.toList ++ a.toList := by
  rw [List.mem_append, List.mem_append, or_comm]

/-- Both orders resolve the same arrows if and only if they agree on the start nodes of the two
arrows. -/
theorem Answered.resolvedArrows_eq_iff (h : s.Settled) :
    (∀ map, t.tables.resolvedArrows map scope = u.tables.resolvedArrows map scope) ↔
      ∀ x ∈ a.toList ++ b.toList,
        (t.tables.FullyLeft scope x.start ↔ u.tables.FullyLeft scope x.start) := by
  refine (first.grows_both second h).resolvedArrows_eq_iff (second'.grows_both first' h)
    second.settled first'.settled mem_swap (first.sub_both second) ?_ (first.stored_both second) ?_
  · exact fun x hx => (mem_swap x).mpr (second'.sub_both first' hx)
  · exact fun x hx => second'.stored_both first' ((mem_swap x).mp hx)

theorem Answered.resolvedArrows_eq_of_left_nil (h : s.Settled) (late : left₁ ++ left₂ = [])
    (late' : left₂' ++ left₁' = []) (map : Id) :
    t.tables.resolvedArrows map scope = u.tables.resolvedArrows map scope := by
  have grows := first.grows_both second h
  have grows' := second'.grows_both first' h
  rw [late] at grows
  rw [late'] at grows'
  have none_left : ([] : List Row.Arrow) ⊆ [] := List.Subset.refl []
  exact (grows.resolvedArrows_eq_iff grows' second.settled first'.settled mem_swap none_left
    none_left (List.nil_subset _) (List.nil_subset _)).mpr (by simp) map

theorem Answered.resolvedArrows_eq_of_start (h : s.Settled)
    (one_start : ∀ x ∈ a.toList ++ b.toList, ∀ y ∈ a.toList ++ b.toList, x.start = y.start) :
    ∀ map, t.tables.resolvedArrows map scope = u.tables.resolvedArrows map scope := by
  by_cases late : left₁ ++ left₂ = []
  · obtain ⟨late_a, late_b⟩ := List.append_eq_nil_iff.mp late
    obtain ⟨late_b', late_a'⟩ := second'.left_nil_swap first' first second h late_a late_b
    refine first.resolvedArrows_eq_of_left_nil second second' first' h late ?_
    rw [late_a', late_b', List.nil_append]
  · have late' : left₂' ++ left₁' ≠ [] := by
      intro late'
      obtain ⟨late_b', late_a'⟩ := List.append_eq_nil_iff.mp late'
      obtain ⟨late_a, late_b⟩ := first.left_nil_swap second second' first' h late_b' late_a'
      exact late (by rw [late_a, late_b, List.nil_append])
    -- Completion has spread from the one start node in both orders.
    obtain ⟨y, hy, left⟩ := first.exists_fullyLeft second h late
    obtain ⟨z, hz, left'⟩ := second'.exists_fullyLeft first' h late'
    rw [first.resolvedArrows_eq_iff second second' first' h]
    intro x hx
    rw [one_start x hx y hy]
    refine iff_of_true left ?_
    rwa [one_start y hy z ((mem_swap z).mpr hz)]

theorem Answered.resolvedArrows_eq_of_resolved (h : s.Settled)
    (no_other : ∀ x ∈ a.toList ++ b.toList, ∀ e ∈ s.tables.edges, e.start = x.start →
      s.tables.Resolved scope e.id ∨ ∃ y ∈ a.toList ++ b.toList, y.id = e.id) :
    ∀ map, t.tables.resolvedArrows map scope = u.tables.resolvedArrows map scope := by
  rw [first.resolvedArrows_eq_iff second second' first' h]
  intro x hx
  have grows := first.grows_both second h
  have grows' := second'.grows_both first' h
  have edges : t.tables.edges = s.tables.edges :=
    Tables.edges_congr (first.arrows_eq_both second) (first.rules_eq_both second)
  have edges' : u.tables.edges = s.tables.edges :=
    Tables.edges_congr (second'.arrows_eq_both first') (second'.rules_eq_both first')
  refine iff_of_true ?_ ?_
  · intro e he start
    rcases no_other x hx e (edges ▸ he) start with before | ⟨y, hy, hid⟩
    · exact grows.resolved before
    · exact hid ▸ grows.resolved_of_given hy
  · intro e he start
    rcases no_other x hx e (edges' ▸ he) start with before | ⟨y, hy, hid⟩
    · exact grows'.resolved before
    · exact hid ▸ grows'.resolved_of_given ((mem_swap y).mp hy)

end Orders

/-- Two correct answers in scopes that share progress, on any store that calls lead to. Both orders
resolve the same arrows exactly if they agree on the start nodes of the two arrows: from each, all
live arrows are resolved in both orders or in neither. Then the completed nodes are the same. They
agree if the two arrows leave one node, or if all other live arrows that leave their start nodes were
resolved before. -/
theorem answers_commute_iff_left_alike (h : s.Reached) {q₁ q₂ : Id} {s₁ s₂ t u : Store}
    (first : s.Solves scope q₁ s₁) (second : s₁.Solves scope q₂ t)
    (second' : s.Solves scope q₂ s₂) (first' : s₂.Solves scope q₁ u) :
    ((∀ map, t.tables.resolvedArrows map scope = u.tables.resolvedArrows map scope) ↔
      ∀ a ∈ s.tables.answered q₁ q₂,
        (t.tables.FullyLeft scope a.start ↔ u.tables.FullyLeft scope a.start)) ∧
    ((∀ map, t.tables.resolvedArrows map scope = u.tables.resolvedArrows map scope) →
      ∀ map, t.tables.completedNodes map scope = u.tables.completedNodes map scope) ∧
    ((∀ a ∈ s.tables.answered q₁ q₂, ∀ b ∈ s.tables.answered q₁ q₂, a.start = b.start) ∨
        (∀ a ∈ s.tables.answered q₁ q₂, ∀ e ∈ s.tables.edges, e.start = a.start →
          s.tables.Resolved scope e.id ∨ ∃ b ∈ s.tables.answered q₁ q₂, b.id = e.id) →
      ∀ map, t.tables.resolvedArrows map scope = u.tables.resolvedArrows map scope) := by
  have settled := h.settled
  have arrow_of : ∀ {s' : Store}, s'.tables.arrows = s.tables.arrows → ∀ q,
      s'.tables.arrowOf? q = s.tables.arrowOf? q := by
    intro s' same q
    unfold Tables.arrowOf?
    rw [same]
  obtain ⟨left₁, first⟩ := settled.answered_of_solves first
  obtain ⟨left₂', second'⟩ := settled.answered_of_solves second'
  obtain ⟨left₂, second⟩ := first.settled.answered_of_solves second
  obtain ⟨left₁', first'⟩ := second'.settled.answered_of_solves first'
  rw [arrow_of first.arrows_eq] at second
  rw [arrow_of second'.arrows_eq] at first'
  refine ⟨first.resolvedArrows_eq_iff second second' first' settled, ?completed, ?alike⟩
  case completed =>
    have same_arrows : t.tables.arrows = u.tables.arrows :=
      (first.arrows_eq_both second).trans (second'.arrows_eq_both first').symm
    have same_rules : t.tables.rules = u.tables.rules :=
      (first.rules_eq_both second).trans (second'.rules_eq_both first').symm
    exact second.settled.completedNodes_eq first'.settled same_arrows same_rules
  case alike =>
    rintro (one_start | no_other)
    · exact first.resolvedArrows_eq_of_start second second' first' settled one_start
    · exact first.resolvedArrows_eq_of_resolved second second' first' settled no_other

end Store

/-- Two questions lead from the nodes 1 and 2 into the one rule of node 3, and there may be more
arrows. Both members have seats in one play. -/
def fork (more : List Row.Arrow) : Store where
  tables :=
    { members := [⟨1, "ada", none, true, default⟩, ⟨2, "ben", none, true, default⟩]
      maps := [⟨1, "Map", false, 1, none, default⟩]
      nodes := [⟨1, 1, "M", "", "", true, none, default⟩, ⟨2, 1, "N", "", "", true, none, default⟩,
        ⟨3, 1, "T", "", "", true, none, default⟩, ⟨4, 1, "U", "", "", true, none, default⟩]
      rules := [⟨1, 1, 3, "", none, default⟩, ⟨2, 1, 4, "", none, default⟩]
      questions := [⟨1, 1, "Q", "", ["file"], "manual", true, none, none, none, default⟩,
        ⟨2, 1, "Q", "", ["file"], "manual", true, none, none, none, default⟩]
      arrows := [⟨1, 1, 1, 1, some 1, none, default⟩, ⟨2, 1, 2, 1, some 2, none, default⟩] ++ more
      plays := [⟨5, 1, "", 1, none, default⟩]
      seats := [⟨1, 5, 1, "participant", false, default⟩,
        ⟨2, 5, 2, "participant", false, default⟩] }
  last := fun _ => 5

def forkBranch : Row.Arrow := ⟨3, 1, 1, 2, none, none, default⟩

def forkSubmission (seat : Id) : Submission := ⟨none, [⟨"a", "f"⟩], some seat⟩

def forkAnswer (member question : Id) : Call :=
  .submit default member question (forkSubmission member)

theorem solves_forkAnswer (s : Store) (member question : Id)
    (evaluated : (Action.submit default member question (forkSubmission member) s).1.map
      (fun o => (o.verdict, o.scope)) = .ok (.success, .seated member member 5)) :
    s.Solves (.seated 1 1 5) question ((forkAnswer member question).perform s) :=
  Store.solves_perform s default member question (forkSubmission member)
    (Scope.shares_seated.mpr rfl) evaluated

theorem answers_commute_in_fork :
    (fork []).Reached ∧ (fork []).Solves (.seated 1 1 5) 1 ((fork []).after [forkAnswer 1 1]) ∧
      ((fork []).after [forkAnswer 1 1]).Solves (.seated 1 1 5) 2
        ((fork []).after [forkAnswer 1 1, forkAnswer 2 2]) ∧
      (fork []).Solves (.seated 1 1 5) 2 ((fork []).after [forkAnswer 2 2]) ∧
      ((fork []).after [forkAnswer 2 2]).Solves (.seated 1 1 5) 1
        ((fork []).after [forkAnswer 2 2, forkAnswer 1 1]) ∧
      ((fork []).after [forkAnswer 1 1, forkAnswer 2 2]).tables.completedNodes 1 (.seated 1 1 5) =
        ((fork []).after [forkAnswer 2 2, forkAnswer 1 1]).tables.completedNodes 1
          (.seated 1 1 5) := by
  have fresh : (fork []).Fresh :=
    ⟨by decide, ⟨by decide, by decide, by decide, by decide⟩, by decide, rfl, rfl⟩
  have first := solves_forkAnswer (fork []) 1 1 (by cbv)
  have second := solves_forkAnswer ((fork []).after [forkAnswer 1 1]) 2 2 (by cbv)
  have second' := solves_forkAnswer (fork []) 2 2 (by cbv)
  have first' := solves_forkAnswer ((fork []).after [forkAnswer 2 2]) 1 1 (by cbv)
  obtain ⟨-, completed, alike⟩ := Store.answers_commute_iff_left_alike (fresh.reached []) first
    second second' first'
  refine ⟨fresh.reached [], first, second, second', first', completed (alike (.inr ?_)) 1⟩
  have no_other : (fork []).tables.edges.all (fun e =>
      ((fork []).tables.answered 1 2).any (·.id == e.id)) = true := by cbv
  intro _ _ e he _
  obtain ⟨b, hb, same⟩ := List.any_eq_true.mp (List.all_eq_true.mp no_other e he)
  exact .inr ⟨b, hb, beq_iff_eq.mp same⟩

/-- With the branch, the second answer finishes the rule as before, but only if it leaves node 1 is
node 4 completed as well. -/
theorem order_of_answers_matters :
    (fork [forkBranch]).Reached ∧
      ∃ s₁ t s₂ u, (fork [forkBranch]).Solves (.seated 1 1 5) 1 s₁ ∧
        s₁.Solves (.seated 1 1 5) 2 t ∧ (fork [forkBranch]).Solves (.seated 1 1 5) 2 s₂ ∧
        s₂.Solves (.seated 1 1 5) 1 u ∧
        t.tables.completedNodes 1 (.seated 1 1 5) ≠ u.tables.completedNodes 1 (.seated 1 1 5) := by
  have fresh : (fork [forkBranch]).Fresh :=
    ⟨by decide, ⟨by decide, by decide, by decide, by decide⟩, by decide, rfl, rfl⟩
  have first := solves_forkAnswer (fork [forkBranch]) 1 1 (by cbv)
  have second := solves_forkAnswer ((fork [forkBranch]).after [forkAnswer 1 1]) 2 2 (by cbv)
  have second' := solves_forkAnswer (fork [forkBranch]) 2 2 (by cbv)
  have first' := solves_forkAnswer ((fork [forkBranch]).after [forkAnswer 2 2]) 1 1 (by cbv)
  refine ⟨fresh.reached [], _, _, _, _, first, second, second', first', ?_⟩
  have three : (((fork [forkBranch]).after [forkAnswer 1 1, forkAnswer 2 2]).tables.completedNodes 1
      (.seated 1 1 5)).toList = [3] := by cbv
  have four : (((fork [forkBranch]).after [forkAnswer 2 2, forkAnswer 1 1]).tables.completedNodes 1
      (.seated 1 1 5)).toList = [3, 4] := by cbv
  intro same
  have lists : ([3] : List Id) = [3, 4] :=
    three.symm.trans ((congrArg (·.toList) same).trans four)
  cases lists

end LearningMap
