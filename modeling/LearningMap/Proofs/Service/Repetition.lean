import LearningMap.Proofs.Service.Completion
import LearningMap.Proofs.Store.Conflict

/-!
# Completing again

A completion that is repeated adds nothing, whatever the tables hold. On a store that is not sound,
rows of the first plan may have been passed over, and rows that were added may be invisible to the
scope, so that the second snapshot is not the one that the first propagation left. It lies between
the two ends of that propagation, though. Hence the second plan asks for no row that the first one
did not ask for, and all of these are stored or were in the way.
-/

namespace LearningMap

open Entity

/-- A completion has added rows of a plan, and all keys of the plan are occupied. -/
structure Completion.Covers (c : Completion) (plan : Plan) (s s' : Store) : Prop where
  tables : s'.tables = s.tables.book c.resolved c.completed
  resolved : ∀ q ∈ c.resolved, ∃ r ∈ plan.resolutions, ∃ i, q = withId r.toRow i
  completed : ∀ q ∈ c.completed, ∃ r ∈ plan.completions, ∃ i, q = withId r.toRow i
  resolutions : ∀ r ∈ plan.resolutions, Occupied s'.tables.progresses r.toRow
  completions : ∀ r ∈ plan.completions, Occupied s'.tables.histories r.toRow

namespace Action

variable {s s₁ s' : Store} {plan : Plan} {c : Completion}

theorem covers_of_stored (keyed : s.Keyed)
    (resolved : (storeResolved plan.resolutions).Yields s c.resolved s₁)
    (completed : (storeCompleted plan.completions).Yields s₁ c.completed s') :
    c.Covers plan s s' := by
  have some_key : ∀ r ∈ plan.resolutions.map (·.toRow), keys r ≠ [] :=
    fun r _ => List.cons_ne_nil _ _
  obtain ⟨tables₁, added₁, occupied₁, last₁⟩ := yields_insert_skip keyed.at some_key resolved
  have histories₁ : s₁.tables.histories = s.tables.histories := by rw [tables₁]; rfl
  have keyed₁ : SoundRows s₁.tables.histories (s₁.last .histories) := by
    rw [histories₁, last₁ .histories (by decide)]
    exact keyed .histories
  have some_key' : ∀ r ∈ plan.completions.map (·.toRow), keys r ≠ [] :=
    fun r _ => List.cons_ne_nil _ _
  obtain ⟨tables₂, added₂, occupied₂, -⟩ := yields_insert_skip keyed₁ some_key' completed
  refine ⟨?tables, ?resolved, ?completed, ?resolutions, ?completions⟩
  case tables =>
    rw [tables₂, tables₁]
    rfl
  case resolved =>
    intro q hq
    obtain ⟨row, hrow, i, rfl⟩ := added₁ q hq
    obtain ⟨r, hr, rfl⟩ := List.mem_map.mp hrow
    exact ⟨r, hr, i, rfl⟩
  case completed =>
    intro q hq
    obtain ⟨row, hrow, i, rfl⟩ := added₂ q hq
    obtain ⟨r, hr, rfl⟩ := List.mem_map.mp hrow
    exact ⟨r, hr, i, rfl⟩
  case resolutions =>
    intro r hr
    have progresses₂ : s'.tables.progresses = s₁.tables.progresses := by rw [tables₂]; rfl
    rw [progresses₂]
    exact occupied₁ _ (List.mem_map_of_mem hr)
  case completions => exact fun r hr => occupied₂ _ (List.mem_map_of_mem hr)

theorem stored_of_occupied
    (resolutions : ∀ r ∈ plan.resolutions, Occupied s.tables.progresses r.toRow)
    (completions : ∀ r ∈ plan.completions, Occupied s.tables.histories r.toRow) :
    ∃ s₁ s', (storeResolved plan.resolutions).Yields s [] s₁ ∧
      (storeCompleted plan.completions).Yields s₁ [] s' ∧ s'.tables = s.tables := by
  have occupied : ∀ r ∈ plan.resolutions.map (·.toRow), Occupied (rows s.tables) r := by
    intro r hr
    obtain ⟨q, hq, rfl⟩ := List.mem_map.mp hr
    exact resolutions q hq
  obtain ⟨last₁, first⟩ := insert_skip_of_occupied occupied
  have tables₁ : setRows s.tables (rows s.tables ++ ([] : List Row.ArrowProgress)) = s.tables := by
    simp [rows, setRows]
  rw [tables₁] at first
  have occupied' : ∀ r ∈ plan.completions.map (·.toRow),
      Occupied (rows (⟨s.tables, last₁⟩ : Store).tables) r := by
    intro r hr
    obtain ⟨q, hq, rfl⟩ := List.mem_map.mp hr
    exact completions q hq
  obtain ⟨last₂, second⟩ := insert_skip_of_occupied occupied'
  refine ⟨_, _, first, second, ?_⟩
  simp [rows, setRows]

end Action

namespace Completion.Covers

variable {s s' : Store} {scope : Scope} {map : Id} {seeds : List Id} {now : Timestamp}
  {c : Completion} {run : Run}

section Planned

variable (h : c.Covers (.ofRun run scope now) s s')
include h

theorem arrow_of_resolved {q : Row.ArrowProgress} (hq : q ∈ c.resolved) :
    ∃ a ∈ run.resolved, q.arrow = a.id := by
  obtain ⟨r, hr, i, rfl⟩ := h.resolved q hq
  obtain ⟨a, ha, rfl⟩ := List.mem_map.mp hr
  exact ⟨a, ha, rfl⟩

theorem rule_of_completed {q : Row.NodeHistory} (hq : q ∈ c.completed) :
    ∃ r ∈ run.recorded, q.rule = r.id := by
  obtain ⟨p, hp, i, rfl⟩ := h.completed q hq
  obtain ⟨r, hr, rfl⟩ := List.mem_map.mp hp
  exact ⟨r, hr, rfl⟩

/-- A plan of arrows and rules that were planned before finds its keys occupied, at any later time. -/
theorem occupied_again (later : Timestamp) {again : Run} (resolved : again.resolved ⊆ run.resolved)
    (recorded : again.recorded ⊆ run.recorded) :
    (∀ r ∈ (Plan.ofRun again scope later).resolutions, Occupied s'.tables.progresses r.toRow) ∧
      ∀ r ∈ (Plan.ofRun again scope later).completions, Occupied s'.tables.histories r.toRow := by
  constructor
  · intro r hr
    obtain ⟨a, ha, rfl⟩ := List.mem_map.mp hr
    have planned : ⟨a.map, a.id, scope.member, scope.seat, now⟩ ∈
        (Plan.ofRun run scope now).resolutions :=
      List.mem_map.mpr ⟨a, resolved ha, rfl⟩
    exact (h.resolutions _ planned).of_keys_eq rfl
  · intro r hr
    obtain ⟨q, hq, rfl⟩ := List.mem_map.mp hr
    have planned : ⟨run.snapshot.map, q.node, q.id, scope.member, scope.seat, now⟩ ∈
        (Plan.ofRun run scope now).completions :=
      List.mem_map.mpr ⟨q, recorded hq, rfl⟩
    exact (h.completions _ planned).of_keys_eq rfl

end Planned

theorem between (wf : (s.tables.snapshot map scope).WellFormed)
    (h : c.Covers (.ofRun ((s.tables.snapshot map scope).run seeds) scope now) s s') :
    (s'.tables.snapshot map scope).Between (s.tables.snapshot map scope)
      ((s.tables.snapshot map scope).run seeds) := by
  have ext := Snapshot.run_extends wf seeds
  rw [h.tables]
  refine ⟨Tables.graph_book scope, ?arrows_above, ?arrows_below, ?rules_above, ?rules_below⟩
  case arrows_above => exact fun i hi => Tables.mem_arrows_book.mpr (.inl hi)
  case arrows_below =>
    intro i hi
    rcases Tables.mem_arrows_book.mp hi with old | ⟨r, hr, -, -, -, rfl⟩
    · exact ext.mem_arrows.mpr (.inl old)
    · obtain ⟨a, ha, hid⟩ := h.arrow_of_resolved hr
      exact ext.mem_arrows.mpr (.inr ⟨a, ha, hid.symm⟩)
  case rules_above => exact fun i hi => Tables.mem_rules_book.mpr (.inl hi)
  case rules_below =>
    intro i hi
    rcases Tables.mem_rules_book.mp hi with old | ⟨_, r, hr, -, -, -, rfl⟩
    · exact ext.mem_rules.mpr (.inl old)
    · obtain ⟨q, hq, hid⟩ := h.rule_of_completed hr
      exact ext.mem_rules.mpr (.inr ⟨q, hq, hid.symm⟩)

end Completion.Covers

namespace Store.Keyed

variable {s s' : Store} {now : Timestamp} {actor : Actor} {nodes : List Row.Node} {c : Completion}

theorem wellFormed (h : s.Keyed) {map : Id} {scope : Scope} :
    (s.tables.snapshot map scope).WellFormed :=
  Tables.snapshot_wellFormed (h .arrows).distinct

/-- A completion that went through goes through again, at any later time, and adds nothing. -/
theorem completeNodes_again (h : s.Keyed)
    (done : (Action.completeNodes now actor nodes).Yields s c s') (later : Timestamp) :
    ∃ c' s'', (Action.completeNodes later actor nodes).Yields s' c' s'' ∧ c'.isEmpty = true ∧
      s''.tables = s'.tables := by
  cases nodes with
  | nil => exact ⟨.empty, s', rfl, rfl, rfl⟩
  | cons first rest =>
    obtain ⟨one_map, scope, acting, key, s₁, resolved, completed, -, -⟩ :=
      Action.yields_completeNodes_cons.mp done
    rw [Snapshot.propagate_eq] at resolved completed
    have covers := Action.covers_of_stored h resolved completed
    have wf : (s.tables.snapshot first.map scope).WellFormed := h.wellFormed
    have between := covers.between wf
    have some_seed : (first :: rest).map (·.id) ≠ [] := List.cons_ne_nil _ _
    obtain ⟨resolutions, completions⟩ := covers.occupied_again later
      (between.resolved_subset wf some_seed) (between.recorded_subset wf some_seed)
    obtain ⟨s₂, s'', resolved', completed', same⟩ :=
      Action.stored_of_occupied resolutions completions
    let next := ((s'.tables.snapshot first.map scope).propagate ((first :: rest).map (·.id))
      scope later).2.activated
    refine ⟨⟨[], [], .ofList [], next⟩, s'', ?_, rfl, same⟩
    exact Action.yields_completeNodes_cons.mpr
      ⟨one_map, scope, acting, key, s₂, resolved', completed', rfl, rfl⟩

end Store.Keyed

/-- Two maps and a play on each. The member has a seat in the first play, where a row for the first
arrow is not resolved, and has resolved that arrow alone under the other map. -/
def strays : Store where
  tables :=
    { members := [⟨1, "ada", none, true, default⟩]
      maps := [⟨1, "Map", false, 1, none, default⟩, ⟨2, "Other", false, 1, none, default⟩]
      nodes := [⟨1, 1, "S", "", "", true, none, default⟩, ⟨2, 1, "T", "", "", true, none, default⟩,
        ⟨3, 1, "U", "", "", true, none, default⟩]
      rules := [⟨1, 1, 2, "", none, default⟩, ⟨2, 1, 3, "", none, default⟩]
      arrows := [⟨1, 1, 1, 1, none, none, default⟩, ⟨2, 1, 2, 2, none, none, default⟩]
      plays := [⟨5, 1, "", 1, none, default⟩, ⟨6, 2, "", 1, none, default⟩]
      seats := [⟨1, 5, 1, "participant", false, default⟩]
      progresses := [⟨1, 1, 1, 1, some 1, false, none, default⟩,
        ⟨2, 2, 1, 1, none, true, none, default⟩] }
  last := fun _ => 6

theorem strays_lawful : strays.Lawful := by decide

def straysStart : Row.Node := ⟨1, 1, "S", "", "", true, none, default⟩

/-- The actor names a play that the seat does not belong to, and sees none of the rows. -/
def straysActor : Actor := ⟨some 1, some 1, some 6⟩

theorem completeNodes_again_on_strays :
    strays.Keyed ∧
      ∃ c s', (Action.completeNodes default straysActor [straysStart]).Yields strays c s' ∧
        c.isEmpty = false ∧
        (s'.tables.snapshot 1 (.seated 1 1 6)).progress.arrows.toList = [] ∧
        ∃ c' s'', (Action.completeNodes default straysActor [straysStart]).Yields s' c' s'' ∧
          c'.isEmpty = true ∧ s''.tables = s'.tables := by
  refine ⟨strays_lawful.keyed, ?_⟩
  have some_row : ((Action.completeNodes default straysActor [straysStart]) strays).1.map
      (·.isEmpty) = .ok false := by cbv
  have unseen : (((Action.completeNodes default straysActor [straysStart]) strays).2.tables.snapshot 1
      (.seated 1 1 6)).progress.arrows.toList = [] := by cbv
  obtain ⟨c, s', done⟩ := Action.exists_yields_of_isOk
    (Action.completeNodes default straysActor [straysStart]) strays (by cbv)
  rw [done] at some_row unseen
  refine ⟨c, s', done, ?_, unseen, ?_⟩
  · simpa [Except.map] using some_row
  · exact strays_lawful.keyed.completeNodes_again done default

end LearningMap
