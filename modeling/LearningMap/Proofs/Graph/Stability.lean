import LearningMap.Proofs.Graph.Settled

/-!
# Stable sets of arrows

From a settled snapshot on, arrows are resolved on their own, or together with a propagation from
some nodes. Either way the arrows that are resolved in the end are the least stable set that holds
the given arrows and those that leave the given nodes. What two such steps resolve is the least
stable set for the arrows and nodes of both. Hence two runs of steps that resolve the same arrows can
only differ by the nodes that they start from, and they do not differ if all arrows that leave these
nodes are resolved in both or in neither.
-/

namespace LearningMap

namespace Snapshot

/-- A set of arrows that holds the resolved and the given ones, those that leave the given nodes,
and with the arrows of an unrecorded rule those that leave its node. -/
structure Stable (s : Snapshot) (given seeds : List Id) (arrows : Set Id) : Prop where
  resolved : ∀ i ∈ s.progress.arrows, i ∈ arrows
  given : ∀ i ∈ given, i ∈ arrows
  leave : ∀ n ∈ seeds, ∀ a ∈ s.outgoing n, a.id ∈ arrows
  unlock : ∀ {i : Id} {r : Rule}, s.rules[i]? = some r → i ∉ s.progress.rules →
    s.Earned arrows i → ∀ a ∈ s.outgoing r.node, a.id ∈ arrows

/-- A settled snapshot of the same graph in which the least stable set is resolved. -/
structure Grows (s : Snapshot) (given seeds : List Id) (t : Snapshot) : Prop where
  graph_eq : t.graph = s.graph
  settled : t.Settled
  least : IsLeast {arrows | s.Stable given seeds arrows} t.progress.arrows.toSet

/-- Every arrow that leaves a node is resolved. -/
def Left (s : Snapshot) (n : Id) : Prop := ∀ a ∈ s.outgoing n, a.id ∈ s.progress.arrows

variable {s t u : Snapshot} {given seeds : List Id}

theorem Adds.grows (adds : s.Adds given t) (settled : t.Settled) : s.Grows given [] t where
  graph_eq := adds.graph_eq
  settled := settled
  least := by
    have graph := adds.graph_eq
    constructor
    · refine ⟨?resolved, ?given, by simp, ?unlock⟩
      case resolved => exact fun i hi => (adds.mem_arrows i).mpr (.inl hi)
      case given => exact fun i hi => (adds.mem_arrows i).mpr (.inr hi)
      case unlock =>
        intro i r hr unrecorded earned
        rw [← adds.rules_eq] at unrecorded
        rw [← earned_eq_of_graph graph] at earned
        exact absurd (settled.saturated (rules_eq_of_graph graph ▸ hr) earned) unrecorded
    · intro B stable i hi
      exact ((adds.mem_arrows i).mp hi).elim (stable.resolved i) (stable.given i)

theorem Adds.grows_run (wf : s.WellFormed) (adds : s.Adds given u) (justified : s.Justified)
    (some_seed : seeds ≠ []) : s.Grows given seeds (u.run seeds).snapshot := by
  have graph := adds.graph_eq
  have wf' : u.WellFormed := wf.of_graph graph
  have graph' := (run_extends wf' seeds).graph_eq
  have settled := (adds.justified justified).settled_run wf' some_seed
  refine ⟨graph'.trans graph, settled, ?_, ?_⟩
  · have closed := (run_isLeast wf' some_seed).1
    refine ⟨?resolved, ?given, ?leave, ?unlock⟩
    case resolved => exact fun i hi => closed.resolved i ((adds.mem_arrows i).mpr (.inl hi))
    case given => exact fun i hi => closed.resolved i ((adds.mem_arrows i).mpr (.inr hi))
    case leave =>
      intro n hn a ha
      exact closed.leave n (closed.seed n hn) a (outgoing_eq_of_graph graph n ▸ ha)
    case unlock =>
      intro i r hr unrecorded earned a ha
      have found : u.rules[i]? = some r := rules_eq_of_graph graph ▸ hr
      have recorded := closed.earn found (earned_eq_of_graph graph ▸ earned)
      have spread := closed.unlock recorded (adds.rules_eq ▸ unrecorded) found
      exact closed.leave r.node spread a (outgoing_eq_of_graph graph r.node ▸ ha)
  · intro B stable
    -- The nodes whose arrows are all in the stable set, and the rules that it earns, are closed.
    have closed : u.Closed seeds
        ⟨{n | ∀ a ∈ s.outgoing n, a.id ∈ B}, B, {i | i ∈ s.progress.rules ∨ s.Earned B i}⟩ := by
      refine ⟨stable.leave, ?unlock, ?resolved, ?leave, ?recorded, ?earn⟩
      case unlock =>
        intro i r hi unrecorded hr
        rw [adds.rules_eq] at unrecorded
        exact stable.unlock (rules_eq_of_graph graph ▸ hr) unrecorded (hi.resolve_left unrecorded)
      case resolved =>
        exact fun i hi => ((adds.mem_arrows i).mp hi).elim (stable.resolved i) (stable.given i)
      case leave => exact fun n hn a ha => hn a (outgoing_eq_of_graph graph n ▸ ha)
      case recorded => exact fun i hi => .inl (adds.rules_eq ▸ hi)
      case earn => exact fun _ earned => .inr (earned_eq_of_graph graph ▸ earned)
    exact ((run_isLeast wf' some_seed).2 closed).2.1

namespace Grows

variable {given₁ given₂ seeds₁ seeds₂ : List Id}

theorem subset (h : s.Grows given seeds t) : s.progress.arrows.toSet ⊆ t.progress.arrows.toSet :=
  h.least.1.resolved

theorem trans (settled : s.Settled) (h₁ : s.Grows given₁ seeds₁ t) (h₂ : t.Grows given₂ seeds₂ u) :
    s.Grows (given₁ ++ given₂) (seeds₁ ++ seeds₂) u where
  graph_eq := h₂.graph_eq.trans h₁.graph_eq
  settled := h₂.settled
  least := by
    have first := h₁.least.1
    have second := h₂.least.1
    have graph := h₁.graph_eq
    constructor
    · refine ⟨?resolved, ?given, ?leave, ?unlock⟩
      case resolved => exact fun i hi => h₂.subset (h₁.subset hi)
      case given =>
        intro i hi
        exact (List.mem_append.mp hi).elim (fun hi => h₂.subset (first.given i hi)) (second.given i)
      case leave =>
        intro n hn a ha
        rcases List.mem_append.mp hn with hn | hn
        · exact h₂.subset (first.leave n hn a ha)
        · exact second.leave n hn a (outgoing_eq_of_graph graph n ▸ ha)
      case unlock =>
        intro i r hr unrecorded earned a ha
        have found : t.rules[i]? = some r := rules_eq_of_graph graph ▸ hr
        by_cases recorded : i ∈ t.progress.rules
        · -- The first step recorded the rule, and left its node.
          have earned_first := h₁.settled.justified i r found recorded
          rw [earned_eq_of_graph graph] at earned_first
          exact h₂.subset (first.unlock hr unrecorded earned_first a ha)
        · exact second.unlock found recorded (earned_eq_of_graph graph ▸ earned) a
            (outgoing_eq_of_graph graph r.node ▸ ha)
    · intro B stable
      have below : t.progress.arrows.toSet ⊆ B := by
        refine h₁.least.2 ⟨stable.resolved, ?_, ?_, stable.unlock⟩
        · exact fun i hi => stable.given i (List.mem_append_left _ hi)
        · exact fun n hn => stable.leave n (List.mem_append_left _ hn)
      refine h₂.least.2 ⟨below, ?given, ?leave, ?unlock⟩
      case given => exact fun i hi => stable.given i (List.mem_append_right _ hi)
      case leave =>
        intro n hn a ha
        exact stable.leave n (List.mem_append_right _ hn) a (outgoing_eq_of_graph graph n ▸ ha)
      case unlock =>
        intro i r hr unrecorded earned a ha
        have found : s.rules[i]? = some r := rules_eq_of_graph graph ▸ hr
        have unrecorded_before : i ∉ s.progress.rules := by
          -- What was recorded before is earned by arrows that are resolved now as well.
          intro recorded
          apply unrecorded
          apply h₁.settled.saturated hr
          rw [earned_eq_of_graph graph]
          exact (settled.justified i r found recorded).mono h₁.subset
        exact stable.unlock found unrecorded_before (earned_eq_of_graph graph ▸ earned) a
          (outgoing_eq_of_graph graph r.node ▸ ha)

theorem subset_of_left (h₁ : s.Grows given₁ seeds₁ t) (h₂ : s.Grows given₂ seeds₂ u)
    (given : given₁ ⊆ given₂) (left : ∀ n ∈ seeds₁, u.Left n) :
    t.progress.arrows.toSet ⊆ u.progress.arrows.toSet := by
  have stable := h₂.least.1
  refine h₁.least.2 ⟨stable.resolved, fun i hi => stable.given i (given hi), ?_, stable.unlock⟩
  intro n hn a ha
  exact left n hn a (outgoing_eq_of_graph h₂.graph_eq n ▸ ha)

theorem left (h : s.Grows given seeds t) : ∀ n ∈ seeds, t.Left n := by
  intro n hn a ha
  exact h.least.1.leave n hn a (outgoing_eq_of_graph h.graph_eq n ▸ ha)

/-- Two steps with the same arrows resolve the same if and only if they agree on which nodes are
left, among those that either of them starts from. -/
theorem arrows_eq_iff_left (h₁ : s.Grows given₁ seeds₁ t) (h₂ : s.Grows given₂ seeds₂ u)
    (same : ∀ i, i ∈ given₁ ↔ i ∈ given₂) {nodes : List Id} (sub₁ : seeds₁ ⊆ nodes)
    (sub₂ : seeds₂ ⊆ nodes) :
    t.progress.arrows = u.progress.arrows ↔ ∀ n ∈ nodes, t.Left n ↔ u.Left n := by
  constructor
  · intro arrows n _
    have graph := h₁.graph_eq.trans h₂.graph_eq.symm
    simp only [Left, outgoing_eq_of_graph graph, arrows]
  · intro agree
    have below := h₁.subset_of_left h₂ (fun i => (same i).mp) fun n hn =>
      (agree n (sub₁ hn)).mp (h₁.left n hn)
    have above := h₂.subset_of_left h₁ (fun i => (same i).mpr) fun n hn =>
      (agree n (sub₂ hn)).mpr (h₂.left n hn)
    exact IdSet.ext_iff.mpr fun i => ⟨fun hi => below hi, fun hi => above hi⟩

end Grows

end Snapshot

end LearningMap
