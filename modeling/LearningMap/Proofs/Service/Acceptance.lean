import LearningMap.Proofs.Service.AnswerOrder
import LearningMap.Proofs.Service.Readiness

/-!
# The order of acceptances

The acceptance of an arrow always lets completion spread from its start node, so it adds the arrow
and its start node to what a scope has been given, whatever it finds resolved. A run of acceptances
resolves the least stable set of arrows for all of them. Neither their order nor how often an arrow
is accepted plays a part in that, and the recorded rules follow from the resolved arrows.
-/

namespace LearningMap

structure Acceptance where
  time : Timestamp
  arrow : Row.Arrow
  scope : Scope

def Action.acceptAll : List Acceptance → Action Unit
  | [] => pure ()
  | x :: xs => do
    let _ ← acceptArrow x.time x.arrow x.scope
    acceptAll xs

/-- An acceptance of a stored arrow whose start node is live, for a scope or for another seat of its
play. -/
structure Acceptance.Fits (x : Acceptance) (t : Tables) (scope : Scope) : Prop where
  stored : x.arrow ∈ t.arrows
  live : (t.node? x.arrow.start).isSome = true
  shares : x.scope.Shares scope
  present : t.Present x.scope

/-- A snapshot in which some arrows have been resolved on their own. -/
def Snapshot.withResolved (s : Snapshot) (ids : List Id) : Snapshot :=
  { s with progress := s.progress.resolve ids }

namespace Snapshot

variable {s t u : Snapshot} {given seeds given' seeds' : List Id}

theorem adds_withResolved (s : Snapshot) (ids : List Id) : s.Adds ids (s.withResolved ids) :=
  ⟨rfl, rfl, fun _ => IdSet.mem_insertAll⟩

theorem Settled.grows_run (h : s.Settled) (wf : s.WellFormed) (alike : seeds = [] → given = []) :
    s.Grows given seeds ((s.withResolved given).run seeds).snapshot := by
  have adds := adds_withResolved s given
  by_cases no_seed : seeds = []
  · obtain rfl := alike no_seed
    rw [no_seed, run_nil]
    exact adds.grows h
  · exact adds.grows_run wf h.justified no_seed

theorem Grows.arrows_eq (h : s.Grows given seeds t) (h' : s.Grows given' seeds' u)
    (same : ∀ i, i ∈ given ↔ i ∈ given') (same_seeds : ∀ n, n ∈ seeds ↔ n ∈ seeds') :
    t.progress.arrows = u.progress.arrows := by
  refine (h.arrows_eq_iff_left h' same (List.Subset.refl seeds) fun n => (same_seeds n).mpr).mpr ?_
  exact fun n hn => iff_of_true (h.left n hn) (h'.left n ((same_seeds n).mp hn))

theorem Grows.mem_rules_iff (h : s.Grows given seeds t) (h' : s.Grows given' seeds' u)
    (arrows : t.progress.arrows = u.progress.arrows) {i : Id} {r : Rule}
    (hr : s.rules[i]? = some r) : i ∈ t.progress.rules ↔ i ∈ u.progress.rules := by
  rw [h.settled.recorded_iff (rules_eq_of_graph h.graph_eq ▸ hr),
    h'.settled.recorded_iff (rules_eq_of_graph h'.graph_eq ▸ hr), earned_eq_of_graph h.graph_eq,
    earned_eq_of_graph h'.graph_eq, arrows]

/-- A step from a settled snapshot has resolved and recorded what a propagation from its nodes does,
once its arrows are resolved. -/
theorem Settled.eq_run_of_grows (h : s.Settled) (wf : s.WellFormed)
    (alike : seeds = [] → given = []) (grows : s.Grows given seeds t) :
    t.progress.arrows = ((s.withResolved given).run seeds).snapshot.progress.arrows ∧
      ∀ {i : Id} {r : Rule}, s.rules[i]? = some r ∧ i ∈ t.progress.rules ↔
        s.rules[i]? = some r ∧ i ∈ s.progress.rules ∨
          r ∈ ((s.withResolved given).run seeds).recorded ∧ r.id = i := by
  have propagated := h.grows_run wf alike
  have arrows := grows.arrows_eq propagated (fun _ => Iff.rfl) fun _ => Iff.rfl
  have wf' := wf.of_graph (adds_withResolved s given).graph_eq
  have ext := run_extends wf' seeds
  have recorded_iff : ∀ {i r}, s.rules[i]? = some r → (i ∈ t.progress.rules ↔
      i ∈ s.progress.rules ∨ ∃ q ∈ ((s.withResolved given).run seeds).recorded, q.id = i) :=
    fun hr => (grows.mem_rules_iff propagated arrows hr).trans ext.mem_rules
  refine ⟨arrows, fun {i r} => ⟨?_, ?_⟩⟩
  · rintro ⟨hr, recorded⟩
    refine ((recorded_iff hr).mp recorded).imp (fun old => ⟨hr, old⟩) ?_
    rintro ⟨q, new, rfl⟩
    obtain rfl : q = r := Option.some.inj ((ext.rule q new).symm.trans hr)
    exact ⟨new, rfl⟩
  · rintro (⟨hr, old⟩ | ⟨new, rfl⟩)
    · exact ⟨hr, (recorded_iff hr).mpr (.inl old)⟩
    · exact ⟨ext.rule r new, (recorded_iff (ext.rule r new)).mpr (.inr ⟨r, new, rfl⟩)⟩

end Snapshot

namespace Store

variable {s s₁ s' t u : Store} {scope : Scope} {given given' : List Row.Arrow}

theorem Grows.alike (h : s.Grows scope given given t) (h' : s.Grows scope given' given' u)
    (settled : t.Settled) (settled' : u.Settled) (same : ∀ a, a ∈ given ↔ a ∈ given') (map : Id) :
    t.tables.resolvedArrows map scope = u.tables.resolvedArrows map scope ∧
      ∀ pair, pair ∈ t.tables.completedPairs map scope ↔
        pair ∈ u.tables.completedPairs map scope := by
  have on_map : ∀ (f : Row.Arrow → Id) i,
      i ∈ (onMap map given).map f ↔ i ∈ (onMap map given').map f := by
    intro f i
    simp only [onMap, List.mem_map, List.mem_filter, same]
  have arrows := (h map).arrows_eq (h' map) (on_map _) (on_map _)
  refine ⟨by rw [← Tables.arrows_snapshot, ← Tables.arrows_snapshot, arrows], ?_⟩
  rintro ⟨node, rule⟩
  rw [settled.mem_completedPairs_of_map_iff, settled'.mem_completedPairs_of_map_iff,
    Snapshot.rules_eq_of_graph (h map).graph_eq, Snapshot.rules_eq_of_graph (h' map).graph_eq]
  refine exists_congr fun r => and_congr_right fun hr => and_congr_right fun _ => ?_
  exact (h map).mem_rules_iff (h' map) arrows hr

/-- A store that has grown by some arrows, each left at its start node, has gained what a propagation
finds on every map. -/
theorem Grows.closed (grows : s.Grows scope given given s') (h : s.Settled) (settled' : s'.Settled)
    (map : Id) (now : Timestamp) :
    let closed := ((s.tables.snapshot map scope).withResolved
      ((onMap map given).map (·.id))).propagate ((onMap map given).map (·.start)) scope now
    s'.tables.resolvedArrows map scope = closed.1.progress.arrows ∧
      ∀ node rule, (node, rule) ∈ s'.tables.completedPairs map scope ↔
        (node, rule) ∈ s.tables.completedPairs map scope ∨
          ∃ c ∈ closed.2.completions, c.node = node ∧ c.rule = rule := by
  have wf : (s.tables.snapshot map scope).WellFormed := h.sound.wellFormed
  obtain ⟨arrows, rules⟩ := (h.settled map scope).eq_run_of_grows wf (by simp) (grows map)
  rw [Snapshot.propagate_eq]
  refine ⟨by rw [← Tables.arrows_snapshot, arrows], fun node rule => ?_⟩
  rw [settled'.mem_completedPairs_of_map_iff, h.mem_completedPairs_of_map_iff,
    Snapshot.rules_eq_of_graph (grows map).graph_eq]
  simp only [Plan.ofRun, List.mem_map, exists_exists_and_eq_and]
  constructor
  · rintro ⟨r, hr, hnode, recorded⟩
    rcases rules.mp ⟨hr, recorded⟩ with ⟨-, old⟩ | ⟨new, hid⟩
    · exact .inl ⟨r, hr, hnode, old⟩
    · exact .inr ⟨r, new, hnode, hid⟩
  · rintro (⟨r, hr, hnode, old⟩ | ⟨r, new, hnode, hid⟩)
    · exact ⟨r, hr, hnode, (rules.mpr (.inl ⟨hr, old⟩)).2⟩
    · obtain ⟨hr, recorded⟩ := rules.mpr (.inr ⟨new, hid⟩)
      exact ⟨r, hr, hnode, recorded⟩

theorem Settled.grows_acceptArrow (h : s.Settled) {now : Timestamp} {arrow : Row.Arrow}
    {r : Resolution} (seated : s.tables.SeatedIn scope) (ha : arrow ∈ s.tables.arrows)
    (done : (Action.acceptArrow now arrow scope).Yields s r s') :
    s.Grows scope [arrow] [arrow] s' := by
  obtain ⟨c, s₁, completed, ⟨rfl, -, resolved⟩ | ⟨-, row, -, stored⟩⟩ :=
    Action.steps_of_acceptArrow done
  · exact h.grows_of_completeStart (h.settledBut _ scope) seated ha (h.adds_self ha resolved)
      (fun _ _ => rfl) completed
  · exact h.grows_of_completed seated stored ha completed

end Store

namespace Acceptance.Fits

variable {s s' : Store} {x : Acceptance} {scope : Scope}

theorem of_sameCourse (fits : x.Fits s.tables scope) (course : s.SameCourse s') :
    x.Fits s'.tables scope := by
  obtain ⟨_, _, _, _, same⟩ := course
  rw [same]
  exact ⟨fits.stored, fits.live, fits.shares, fits.present.member, fits.present.seated⟩

theorem lock_iff (fits : x.Fits s.tables scope) :
    (∃ key, x.scope.lockWord = .ok key) ↔ ∃ key, scope.lockWord = .ok key := by
  have shares := fits.shares
  cases scope with
  | solo m =>
    cases own : x.scope with
    | solo n =>
      rw [own, Scope.shares_solo] at shares
      rw [shares]
    | seated n s p => exact absurd (own ▸ shares) Scope.not_seated_shares_solo
  | seated m s p =>
    cases own : x.scope with
    | solo n => exact absurd (own ▸ shares) Scope.not_solo_shares_seated
    | seated n u q => exact iff_of_true ⟨q, rfl⟩ ⟨p, rfl⟩

end Acceptance.Fits

namespace Store

variable {s s₁ s' : Store} {scope : Scope} {x : Acceptance} {xs : List Acceptance}

theorem yields_acceptAll_cons {u : Unit} :
    (Action.acceptAll (x :: xs)).Yields s u s' ↔
      ∃ r s₁, (Action.acceptArrow x.time x.arrow x.scope).Yields s r s₁ ∧
        (Action.acceptAll xs).Yields s₁ u s' :=
  Action.yields_bind

/-- What one acceptance preserves, and by what it makes the store grow. -/
theorem Settled.accept (h : s.Settled) (fits : x.Fits s.tables scope) {r : Resolution}
    (done : (Action.acceptArrow x.time x.arrow x.scope).Yields s r s') :
    s'.Settled ∧ s.SameCourse s' ∧ s.Grows scope [x.arrow] [x.arrow] s' :=
  ⟨h.acceptArrow fits.present.seated fits.stored done,
    (Action.respects_acceptArrow stepwise_sameCourse _ _ _).of_yields done,
    (h.grows_acceptArrow fits.present.seated fits.stored done).congr fits.shares⟩

theorem Settled.acceptAll (h : s.Settled) (fits : ∀ x ∈ xs, x.Fits s.tables scope) {u : Unit}
    (done : (Action.acceptAll xs).Yields s u s') :
    s'.Settled ∧ s.Grows scope (xs.map (·.arrow)) (xs.map (·.arrow)) s' := by
  induction xs generalizing s with
  | nil =>
    obtain ⟨-, rfl⟩ := Action.yields_pure.mp done
    exact ⟨h, fun map => (Snapshot.Adds.refl _).grows (h.settled map scope)⟩
  | cons x xs ih =>
    obtain ⟨r, s₁, first, rest⟩ := yields_acceptAll_cons.mp done
    obtain ⟨settled₁, course, grows₁⟩ := h.accept (fits x List.mem_cons_self) first
    have fits₁ : ∀ y ∈ xs, y.Fits s₁.tables scope := fun y hy =>
      (fits y (List.mem_cons_of_mem x hy)).of_sameCourse course
    obtain ⟨settled', grows⟩ := ih settled₁ fits₁ rest
    exact ⟨settled', grows₁.trans h grows⟩

theorem Settled.exists_acceptAll_iff (h : s.Settled) (fits : ∀ x ∈ xs, x.Fits s.tables scope) :
    (∃ s', (Action.acceptAll xs).Yields s () s') ↔
      xs = [] ∨ ∃ key, scope.lockWord = .ok key := by
  constructor
  · rintro ⟨s', done⟩
    cases xs with
    | nil => exact .inl rfl
    | cons x xs =>
      obtain ⟨r, s₁, first, -⟩ := yields_acceptAll_cons.mp done
      exact .inr ((fits x List.mem_cons_self).lock_iff.mp (lock_of_acceptArrow first))
  · intro locks
    induction xs generalizing s with
    | nil => exact ⟨s, rfl⟩
    | cons x xs ih =>
      have key := locks.resolve_left (List.cons_ne_nil x xs)
      have fits_x := fits x List.mem_cons_self
      obtain ⟨r, s₁, first⟩ := h.exists_acceptArrow fits_x.present x.time fits_x.stored
        fits_x.live (fits_x.lock_iff.mpr key)
      obtain ⟨settled₁, course, -⟩ := h.accept fits_x first
      have fits₁ : ∀ y ∈ xs, y.Fits s₁.tables scope := fun y hy =>
        (fits y (List.mem_cons_of_mem x hy)).of_sameCourse course
      obtain ⟨s', rest⟩ := ih settled₁ fits₁ (.inr key)
      exact ⟨s', yields_acceptAll_cons.mpr ⟨r, s₁, first, rest⟩⟩

/-- Acceptances for a scope, from any seats of its play, on any store that calls lead to. They all go
through unless the scope has no lock. On every map, they leave the progress that a propagation from
the start nodes of their arrows finds once these arrows are resolved. Other acceptances of the same
arrows, in another order, repeated, at other times or from other seats, go through as well and leave
the same progress. -/
theorem acceptances_commute_and_repeat (h : s.Reached) (fits : ∀ x ∈ xs, x.Fits s.tables scope) :
    ((∃ s', (Action.acceptAll xs).Yields s () s') ↔
      xs = [] ∨ ∃ key, scope.lockWord = .ok key) ∧
    (∀ s', (Action.acceptAll xs).Yields s () s' → ∀ map now,
      let given := onMap map (xs.map (·.arrow))
      let closed := ((s.tables.snapshot map scope).withResolved (given.map (·.id))).propagate
        (given.map (·.start)) scope now
      s'.tables.resolvedArrows map scope = closed.1.progress.arrows ∧
        ∀ node rule, (node, rule) ∈ s'.tables.completedPairs map scope ↔
          (node, rule) ∈ s.tables.completedPairs map scope ∨
            ∃ c ∈ closed.2.completions, c.node = node ∧ c.rule = rule) ∧
    ∀ ys : List Acceptance, (∀ y ∈ ys, y.Fits s.tables scope) →
      (∀ a, a ∈ ys.map (·.arrow) ↔ a ∈ xs.map (·.arrow)) →
      ((∃ u, (Action.acceptAll ys).Yields s () u) ↔
        ∃ s', (Action.acceptAll xs).Yields s () s') ∧
      ∀ s' u, (Action.acceptAll xs).Yields s () s' → (Action.acceptAll ys).Yields s () u →
        ∀ map, u.tables.resolvedArrows map scope = s'.tables.resolvedArrows map scope ∧
          ∀ pair, pair ∈ u.tables.completedPairs map scope ↔
            pair ∈ s'.tables.completedPairs map scope := by
  have settled := h.settled
  have goes_through := settled.exists_acceptAll_iff fits
  refine ⟨goes_through, ?closed, ?alike⟩
  case closed =>
    intro s' done map now
    obtain ⟨settled', grows⟩ := settled.acceptAll fits done
    exact grows.closed settled settled' map now
  case alike =>
    intro ys fits' same
    have none_alike : ys = [] ↔ xs = [] := by
      rw [← List.map_eq_nil_iff (f := (·.arrow)), ← List.map_eq_nil_iff (f := (·.arrow)) (l := xs),
        List.eq_nil_iff_forall_not_mem, List.eq_nil_iff_forall_not_mem]
      simp only [same]
    refine ⟨?_, fun s' u done done' map => ?_⟩
    · rw [settled.exists_acceptAll_iff fits', goes_through, none_alike]
    · obtain ⟨settled₁, grows⟩ := settled.acceptAll fits done
      obtain ⟨settled₂, grows'⟩ := settled.acceptAll fits' done'
      exact grows'.alike grows settled₂ settled₁ same map

end Store

def forkAcceptance (member : Id) (arrow : Row.Arrow) : Acceptance :=
  ⟨default, arrow, .seated member member 5⟩

def forkArrow (question : Id) : Row.Arrow := ⟨question, 1, question, 1, some question, none, default⟩

theorem forkAcceptance_fits {member question : Id} (hm : member ∈ [1, 2]) (hq : question ∈ [1, 2]) :
    (forkAcceptance member (forkArrow question)).Fits (fork [forkBranch]).tables
      (.seated 1 1 5) := by
  refine ⟨?stored, ?live, Scope.shares_seated.mpr rfl, ?member, ?seated⟩
  case stored =>
    rcases List.mem_pair.mp hq with rfl | rfl <;> simp [fork, forkAcceptance, forkArrow]
  case live => rcases List.mem_pair.mp hq with rfl | rfl <;> rfl
  case member => exact hm
  case seated =>
    rintro _ _ ⟨⟩ ⟨⟩
    rcases List.mem_pair.mp hm with rfl | rfl
    · exact ⟨⟨1, 5, 1, "participant", false, default⟩, by simp [fork], rfl, rfl⟩
    · exact ⟨⟨2, 5, 2, "participant", false, default⟩, by simp [fork], rfl, rfl⟩

/-- Node 4 is completed whichever arrow is accepted first, although it matters which question is
answered first. -/
theorem acceptances_commute_and_repeat_in_fork :
    let once := [forkAcceptance 1 (forkArrow 1), forkAcceptance 2 (forkArrow 2)]
    let again := [forkAcceptance 2 (forkArrow 2), forkAcceptance 1 (forkArrow 1),
      forkAcceptance 1 (forkArrow 2)]
    (fork [forkBranch]).Reached ∧
      (∀ x ∈ once ++ again, x.Fits (fork [forkBranch]).tables (.seated 1 1 5)) ∧
      ∃ t u, (Action.acceptAll once).Yields (fork [forkBranch]) () t ∧
        (Action.acceptAll again).Yields (fork [forkBranch]) () u ∧
        (4, 2) ∈ t.tables.completedPairs 1 (.seated 1 1 5) ∧
        (4, 2) ∈ u.tables.completedPairs 1 (.seated 1 1 5) := by
  intro once again
  have fresh : (fork [forkBranch]).Fresh :=
    ⟨by decide, ⟨by decide, by decide, by decide, by decide⟩, by decide, rfl, rfl⟩
  have fits : ∀ x ∈ once ++ again, x.Fits (fork [forkBranch]).tables (.seated 1 1 5) := by
    simp only [once, again, List.mem_append, List.mem_cons, List.not_mem_nil, or_false]
    rintro x ((rfl | rfl) | (rfl | rfl | rfl)) <;> exact forkAcceptance_fits (by simp) (by simp)
  have fits_once : ∀ x ∈ once, x.Fits (fork [forkBranch]).tables (.seated 1 1 5) :=
    fun x hx => fits x (List.mem_append_left _ hx)
  obtain ⟨goes_through, closed, alike⟩ :=
    Store.acceptances_commute_and_repeat (fresh.reached []) fits_once
  obtain ⟨goes_through', alike⟩ := alike again (fun x hx => fits x (List.mem_append_right _ hx))
    (by simp [once, again, forkAcceptance, or_comm])
  obtain ⟨t, done⟩ := goes_through.mpr (.inr ⟨5, rfl⟩)
  obtain ⟨u, done'⟩ := goes_through'.mpr ⟨t, done⟩
  have planned : (((fork [forkBranch]).tables.snapshot 1 (.seated 1 1 5)).withResolved
      ((onMap 1 (once.map (·.arrow))).map (·.id))).propagate
      ((onMap 1 (once.map (·.arrow))).map (·.start)) (.seated 1 1 5) default |>.2.completions.any
        (fun c => c.node == 4 && c.rule == 2) = true := by cbv
  obtain ⟨c, hc, found⟩ := List.any_eq_true.mp planned
  rw [Bool.and_eq_true, beq_iff_eq, beq_iff_eq] at found
  have completed := ((closed t done 1 default).2 4 2).mpr (.inr ⟨c, hc, found⟩)
  exact ⟨fresh.reached [], fits, t, u, done, done', completed,
    ((alike t u done done' 1).2 (4, 2)).mpr completed⟩

end LearningMap
