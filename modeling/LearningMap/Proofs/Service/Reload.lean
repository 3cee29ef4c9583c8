import LearningMap.Proofs.Service.Completion

/-!
# Reloading and keeping in memory

A run of completions may load its snapshot from the tables for each call, or load it once and go on
with what each propagation leaves. Both book the same rows. A snapshot that is loaded later, by any
scope that shares progress, is the one that was kept.
-/

namespace LearningMap

structure Seeding where
  now : Timestamp
  scope : Scope
  nodes : List Row.Node

def Action.completeAll : List Seeding → Action (List Completion)
  | [] => pure []
  | call :: calls => do
    let c ← completeNodes call.now call.scope.toActor call.nodes
    let cs ← completeAll calls
    pure (c :: cs)

/-- Propagates from the nodes of each call, each time on what the call before left. -/
def Snapshot.propagateAll (s : Snapshot) : List Seeding → Snapshot × List Plan
  | [] => (s, [])
  | call :: calls =>
    let step := s.propagate (call.nodes.map (·.id)) call.scope call.now
    let rest := step.1.propagateAll calls
    (rest.1, step.2 :: rest.2)

structure Seeding.Fits (call : Seeding) (t : Tables) (map : Id) (scope : Scope) : Prop where
  some_node : call.nodes ≠ []
  one_map : ∀ n ∈ call.nodes, n.map = map
  seated : t.SeatedIn call.scope
  shares : scope.Shares call.scope

namespace Store.Sound

variable {s s' : Store} {scope : Scope} {map : Id} {now : Timestamp} {actor : Actor}
  {nodes : List Row.Node} {c : Completion}

theorem snapshot_completeNodes (h : s.Sound) (seated : s.tables.SeatedIn scope)
    (some_node : nodes ≠ []) (one_map : ∀ n ∈ nodes, n.map = map)
    (acting : actor.scope? = some scope)
    (done : (Action.completeNodes now actor nodes).Yields s c s') {other : Scope}
    (shares : other.Shares scope) :
    s'.tables.snapshot map other =
      ((s.tables.snapshot map scope).propagate (nodes.map (·.id)) scope now).1 := by
  have books := (h.completeNodes seated some_node one_map acting done).1
  rw [Snapshot.propagate_eq] at books ⊢
  exact books.snapshot_of_shares (Snapshot.run_extends h.wellFormed _) h seated shares

theorem already_completeNodes (h : s.Sound) (seated : s.tables.SeatedIn scope)
    (some_node : nodes ≠ []) (one_map : ∀ n ∈ nodes, n.map = map)
    (acting : actor.scope? = some scope)
    (done : (Action.completeNodes now actor nodes).Yields s c s') (n : Id) :
    n ∈ c.already ↔
      n ∈ ((s.tables.snapshot map scope).propagate
          (nodes.map (·.id)) scope now).2.completions.map (·.node) ∧
        n ∈ s.tables.completedNodes map scope := by
  have books := (h.completeNodes seated some_node one_map acting done).1
  obtain ⟨_, -, -, already, -⟩ := Action.yields_completeNodes some_node one_map acting done
  have planned : c.completed.map (·.node) =
      ((s.tables.snapshot map scope).propagate
        (nodes.map (·.id)) scope now).2.completions.map (·.node) := by
    rw [books.completed, map_numbered fun _ _ => rfl, List.map_map]
    rfl
  rw [already, IdSet.mem_ofList, List.mem_filter, planned, decide_eq_true_eq, Tables.nodes_snapshot]

/-- A run of completions books what a run of propagations in memory plans, and ends with tables from
which the last snapshot is loaded. -/
theorem completeAll (h : s.Sound) {calls : List Seeding} {cs : List Completion}
    (fits : ∀ call ∈ calls, call.Fits s.tables map scope)
    (done : (Action.completeAll calls).Yields s cs s') :
    s'.tables.snapshot map scope = ((s.tables.snapshot map scope).propagateAll calls).1 ∧
      List.Forall₂ (fun c plan => ∃ s₁ s₂ : Store, c.Books plan s₁ s₂) cs
        ((s.tables.snapshot map scope).propagateAll calls).2 := by
  induction calls generalizing s cs with
  | nil =>
    obtain ⟨rfl, rfl⟩ := Action.yields_pure.mp done
    exact ⟨rfl, .nil⟩
  | cons call calls ih =>
    obtain ⟨c, s₁, first, done⟩ := Action.yields_bind.mp done
    obtain ⟨rest, s₂, later, done⟩ := Action.yields_bind.mp done
    obtain ⟨rfl, rfl⟩ := Action.yields_pure.mp done
    have call_fits := fits call List.mem_cons_self
    obtain ⟨books, sound⟩ := h.completeNodes call_fits.seated call_fits.some_node call_fits.one_map
      (Scope.scope?_toActor call.scope) first
    have kept := h.snapshot_completeNodes call_fits.seated call_fits.some_node call_fits.one_map
      (Scope.scope?_toActor call.scope) first call_fits.shares
    have loaded : s.tables.snapshot map scope = s.tables.snapshot map call.scope :=
      Tables.snapshot_congr call_fits.shares
    have fits' : ∀ call ∈ calls, call.Fits s₁.tables map scope := by
      intro other hother
      have other_fits := fits other (List.mem_cons_of_mem call hother)
      refine { other_fits with seated := ?_ }
      rw [books.tables]
      exact other_fits.seated
    obtain ⟨last, plans⟩ := ih sound fits' later
    rw [kept] at last plans
    rw [loaded]
    exact ⟨last, .cons ⟨s, s₁, books⟩ plans⟩

/-- Completions on the store refine propagation in memory. -/
theorem completions_refine_propagation (h : s.Sound) (seated : s.tables.SeatedIn scope) (map : Id) :
    (∀ {actor now nodes c s'}, nodes ≠ [] → (∀ n ∈ nodes, n.map = map) →
      actor.scope? = some scope → (Action.completeNodes now actor nodes).Yields s c s' →
      let before := s.tables.snapshot map scope
      let (after, plan) := before.propagate (nodes.map (·.id)) scope now
      c.Books plan s s' ∧
        (∀ n, n ∈ c.already ↔
          n ∈ plan.completions.map (·.node) ∧ n ∈ s.tables.completedNodes map scope) ∧
        ∀ other : Scope, other.lockKey = scope.lockKey → other.play.isSome = scope.play.isSome →
          s'.tables.snapshot map other = after) ∧
    ∀ {calls cs s'}, (∀ call ∈ calls, call.Fits s.tables map scope) →
      (Action.completeAll calls).Yields s cs s' →
      let (last, plans) := (s.tables.snapshot map scope).propagateAll calls
      s'.tables.snapshot map scope = last ∧
        List.Forall₂ (fun c plan => ∃ s₁ s₂ : Store, c.Books plan s₁ s₂) cs plans := by
  constructor
  · intro actor now nodes c s' some_node one_map acting done
    refine ⟨(h.completeNodes seated some_node one_map acting done).1, ?_, ?_⟩
    · exact h.already_completeNodes seated some_node one_map acting done
    · intro other same_key same_kind
      exact h.snapshot_completeNodes seated some_node one_map acting done ⟨same_key, same_kind⟩
  · intro calls cs s' fits done
    exact h.completeAll fits done

end Store.Sound

/-- A map of two nodes. One of its two members has a negative identifier, which negated is that of
the play in which the other one has a seat. -/
def sharedKey : Store where
  tables :=
    { members := [⟨-5, "solo", none, true, default⟩, ⟨1, "ada", none, true, default⟩]
      maps := [⟨1, "Map", false, 1, none, default⟩]
      nodes := [⟨1, 1, "S", "", "", true, none, default⟩, ⟨2, 1, "T", "", "", true, none, default⟩]
      rules := [⟨1, 1, 2, "", none, default⟩]
      arrows := [⟨1, 1, 1, 1, none, none, default⟩]
      plays := [⟨5, 1, "", 1, none, default⟩]
      seats := [⟨1, 5, 1, "participant", false, default⟩] }
  last := fun _ => 5

theorem sharedKey_sound : sharedKey.Sound where
  lawful := by decide
  booked := ⟨by decide, by decide, by decide⟩
  positive := by decide

theorem sharedKey_seated : sharedKey.tables.SeatedIn (.seated 1 1 5) := by
  rintro _ _ ⟨⟩ ⟨⟩
  decide

def sharedKeyStart : Row.Node := ⟨1, 1, "S", "", "", true, none, default⟩

/-- What a member alone completes is not loaded by a seat of the play with the same lock key. -/
theorem lock_key_alone_does_not_share :
    sharedKey.Sound ∧ sharedKey.tables.SeatedIn (.solo (-5)) ∧
      (Scope.seated 1 1 5).lockKey = (Scope.solo (-5)).lockKey ∧
      ∃ c s', (Action.completeNodes default (Scope.solo (-5)).toActor [sharedKeyStart]).Yields
          sharedKey c s' ∧
        s'.tables.snapshot 1 (.seated 1 1 5) ≠
          ((sharedKey.tables.snapshot 1 (.solo (-5))).propagate [1] (.solo (-5)) default).1 := by
  refine ⟨sharedKey_sound, by rintro _ _ ⟨⟩, rfl, ?_⟩
  have reloaded : (((Action.completeNodes default (Scope.solo (-5)).toActor
      [sharedKeyStart]) sharedKey).2.tables.snapshot 1
        (.seated 1 1 5)).progress.arrows.toList = [] := by cbv
  have kept : ((sharedKey.tables.snapshot 1 (.solo (-5))).propagate [1]
      (.solo (-5)) default).1.progress.arrows.toList = [1] := by cbv
  obtain ⟨c, s', done⟩ := Action.exists_yields_of_isOk (Action.completeNodes default
    (Scope.solo (-5)).toActor [sharedKeyStart]) sharedKey (by cbv)
  refine ⟨c, s', done, ?_⟩
  intro same
  rw [done] at reloaded
  rw [← same, reloaded] at kept
  cases kept

def sharedKeyCall : Seeding := ⟨default, .seated 1 1 5, [sharedKeyStart]⟩

theorem sharedKeyCall_fits : sharedKeyCall.Fits sharedKey.tables 1 (.seated 1 1 5) where
  some_node := by decide
  one_map := by decide
  seated := sharedKey_seated
  shares := .refl _

theorem completions_refine_propagation_in_play :
    sharedKey.Sound ∧ sharedKey.tables.SeatedIn (.seated 1 1 5) ∧
      (∃ c s', (Action.completeNodes default (Scope.seated 1 1 5).toActor
          [sharedKeyStart]).Yields sharedKey c s' ∧
        s'.tables.snapshot 1 (.seated 1 1 5) =
          ((sharedKey.tables.snapshot 1 (.seated 1 1 5)).propagate [1]
            (.seated 1 1 5) default).1) ∧
      ∃ cs s', (Action.completeAll [sharedKeyCall, sharedKeyCall]).Yields sharedKey cs s' ∧
        s'.tables.snapshot 1 (.seated 1 1 5) =
          ((sharedKey.tables.snapshot 1 (.seated 1 1 5)).propagateAll
            [sharedKeyCall, sharedKeyCall]).1 := by
  have refines := Store.Sound.completions_refine_propagation sharedKey_sound sharedKey_seated 1
  refine ⟨sharedKey_sound, sharedKey_seated, ?_, ?_⟩
  · obtain ⟨c, s', done⟩ := Action.exists_yields_of_isOk (Action.completeNodes default
      (Scope.seated 1 1 5).toActor [sharedKeyStart]) sharedKey (by cbv)
    obtain ⟨-, -, reload⟩ := refines.1 (by decide) (by decide) rfl done
    exact ⟨c, s', done, reload (.seated 1 1 5) rfl rfl⟩
  · obtain ⟨cs, s', done⟩ := Action.exists_yields_of_isOk
      (Action.completeAll [sharedKeyCall, sharedKeyCall]) sharedKey (by cbv)
    have fits : ∀ call ∈ [sharedKeyCall, sharedKeyCall],
        call.Fits sharedKey.tables 1 (.seated 1 1 5) := by
      simpa using sharedKeyCall_fits
    exact ⟨cs, s', done, (refines.2 fits done).1⟩

end LearningMap
