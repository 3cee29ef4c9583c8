import LearningMap.Proofs.Graph.Stability
import LearningMap.Proofs.Service.View

/-!
# A correct answer

A correct answer resolves its arrow. Completion spreads from the start node of the arrow if this
finishes the rule of the arrow, and otherwise no other arrow is resolved with it. Either way, what a
scope loads of the map grows by the arrow and by what follows from the start nodes that are left.
-/

namespace LearningMap

namespace Tables

def resolvedSet (t : Tables) (scope : Scope) : Set Id := {i | t.Resolved scope i}

/-- An arrow is open, and no other live arrow of its rule is. -/
def Finishes (t : Tables) (resolved : Set Id) (a : Row.Arrow) : Prop :=
  a.id ∉ resolved ∧ ∀ i ∈ t.arrowsInto a.rule, i ∈ resolved ∨ i = a.id

variable {t : Tables} {scope : Scope}

theorem finishes_congr {t' : Tables} (arrows : t'.arrows = t.arrows) : t'.Finishes = t.Finishes := by
  unfold Finishes arrowsInto
  rw [arrows]

theorem resolvedSet_book {ps : List Row.ArrowProgress} {hs : List Row.NodeHistory} {map : Id}
    (own : OwnRows scope map ps hs) (seated : t.SeatedIn scope) :
    (t.book ps hs).resolvedSet scope = {i | ∃ r ∈ ps, r.arrow = i} ∪ t.resolvedSet scope := by
  ext i
  have seen : ∀ r ∈ ps, r.resolved = true ∧ t.visible scope r.member r.seat = true := by
    intro r hr
    obtain ⟨done, -, same_member, same_seat⟩ := own.resolved r hr
    rw [same_member, same_seat]
    exact ⟨done, visible_self seated⟩
  constructor
  · rintro ⟨r, hr, done, visible, same⟩
    rcases List.mem_append.mp hr with old | new
    · exact .inr ⟨r, old, done, visible, same⟩
    · exact .inl ⟨r, new, same⟩
  · rintro (⟨r, hr, same⟩ | ⟨r, hr, done, visible, same⟩)
    · exact ⟨r, List.mem_append_right _ hr, (seen r hr).1, (seen r hr).2, same⟩
    · exact ⟨r, List.mem_append_left _ hr, done, visible, same⟩

/-- An open arrow finishes its rule if the rule is fully resolved once the arrow is. -/
theorem finishes_iff_fullyResolved {t' : Tables} {a : Row.Arrow} (arrows : t'.arrows = t.arrows)
    (resolved : t'.resolvedSet scope = insert a.id (t.resolvedSet scope)) (ha : a ∈ t.arrows)
    (live : a.deletedAt = none) (still_open : ¬ t.Resolved scope a.id) :
    t.Finishes (t.resolvedSet scope) a ↔ t'.FullyResolved scope a.rule := by
  have resolved_iff : ∀ i, t'.Resolved scope i ↔ i ∈ t.resolvedSet scope ∨ i = a.id := by
    intro i
    have same : i ∈ t'.resolvedSet scope ↔ i ∈ insert a.id (t.resolvedSet scope) := by rw [resolved]
    exact same.trans (Set.mem_insert_iff.trans or_comm)
  simp only [FullyResolved, Finishes, arrows, resolved_iff, mem_arrowsInto]
  constructor
  · rintro ⟨-, rest⟩
    exact ⟨⟨a, ha, live, rfl⟩, fun b hb alive rule => rest b.id ⟨b, hb, alive, rule, rfl⟩⟩
  · rintro ⟨-, all⟩
    refine ⟨still_open, ?_⟩
    rintro _ ⟨b, hb, alive, rule, rfl⟩
    exact all b hb alive rule

end Tables

def onMap (map : Id) (as : List Row.Arrow) : List Row.Arrow := as.filter (·.map == map)

namespace Store

/-- On every map, what a scope loads grows by the given arrows of that map, and by what follows from
the start nodes of those that are left. -/
def Grows (s : Store) (scope : Scope) (given left : List Row.Arrow) (s' : Store) : Prop :=
  ∀ map, (s.tables.snapshot map scope).Grows ((onMap map given).map (·.id))
    ((onMap map left).map (·.start)) (s'.tables.snapshot map scope)

variable {s s₁ s' : Store} {scope : Scope} {arrow : Row.Arrow} {now : Timestamp}

theorem Grows.trans (h : s.Settled) {given₁ given₂ left₁ left₂ : List Row.Arrow}
    (h₁ : s.Grows scope given₁ left₁ s₁) (h₂ : s₁.Grows scope given₂ left₂ s') :
    s.Grows scope (given₁ ++ given₂) (left₁ ++ left₂) s' := by
  intro map
  have both := (h₁ map).trans (h.settled map scope) (h₂ map)
  unfold onMap at both ⊢
  rwa [List.filter_append, List.filter_append, List.map_append, List.map_append]

theorem Grows.congr {other : Scope} (shares : other.Shares scope) {left : List Row.Arrow}
    (h : s.Grows other given left s') : s.Grows scope given left s' := by
  intro map
  rw [← Tables.snapshot_congr shares, ← Tables.snapshot_congr shares]
  exact h map

theorem Settled.grows_of_map (h : s.Settled) {left : List Row.Arrow} (sub : left ⊆ [arrow])
    (own : (s.tables.snapshot arrow.map scope).Grows [arrow.id] (left.map (·.start))
      (s'.tables.snapshot arrow.map scope))
    (other : ∀ map, map ≠ arrow.map →
      s'.tables.snapshot map scope = s.tables.snapshot map scope) :
    s.Grows scope [arrow] left s' := by
  intro map
  by_cases same : map = arrow.map
  · subst same
    have given : onMap arrow.map [arrow] = [arrow] := by simp [onMap]
    have kept : onMap arrow.map left = left := by
      refine List.filter_eq_self.mpr fun a ha => ?_
      rw [List.mem_singleton.mp (sub ha), beq_self_eq_true]
    rw [given, kept]
    exact own
  · have given : onMap map [arrow] = [] := by simpa [onMap] using Ne.symm same
    have none_left : onMap map left = [] := by
      refine List.filter_eq_nil_iff.mpr fun a ha => ?_
      rw [List.mem_singleton.mp (sub ha), beq_iff_eq]
      exact Ne.symm same
    rw [given, none_left, other map same]
    exact (Snapshot.Adds.refl _).grows (h.settled map scope)

/-- What the resolution of an arrow has done: completion has spread from its start node if the arrow
finishes its rule, else the arrow was resolved and no other one. -/
inductive Resolves (s : Store) (scope : Scope) (arrow : Row.Arrow) (s' : Store) : Prop
  | spread : s.tables.Finishes (s.tables.resolvedSet scope) arrow →
      s.Grows scope [arrow] [arrow] s' → s.Resolves scope arrow s'
  | alone : ¬ s.tables.Finishes (s.tables.resolvedSet scope) arrow →
      s'.tables.resolvedSet scope = insert arrow.id (s.tables.resolvedSet scope) →
      s.Grows scope [arrow] [] s' → s.Resolves scope arrow s'

theorem Settled.adds_self (h : s.Settled) (ha : arrow ∈ s.tables.arrows)
    (resolved : s.tables.Resolved scope arrow.id) :
    (s.tables.snapshot arrow.map scope).Adds [arrow.id] (s.tables.snapshot arrow.map scope) := by
  have loaded := (h.sound.mem_arrows_iff ha).mpr resolved
  refine ⟨rfl, rfl, fun i => ⟨.inl, fun hi => hi.elim id fun new => ?_⟩⟩
  exact List.mem_singleton.mp new ▸ loaded

theorem Settled.resolves_self (h : s.Settled) (ha : arrow ∈ s.tables.arrows)
    (resolved : s.tables.Resolved scope arrow.id) : s.Resolves scope arrow s := by
  have again : arrow.id ∈ s.tables.resolvedSet scope := resolved
  refine .alone (fun finishes => finishes.1 again) (Set.insert_eq_of_mem again).symm ?_
  exact h.grows_of_map (by simp) ((h.adds_self ha resolved).grows (h.settled _ scope)) (by simp)

theorem Settled.grows_of_completeStart (h : s.Settled) (settled_but : s₁.SettledBut arrow.map scope)
    (seated : s₁.tables.SeatedIn scope) (ha : arrow ∈ s₁.tables.arrows)
    (adds : (s.tables.snapshot arrow.map scope).Adds [arrow.id]
      (s₁.tables.snapshot arrow.map scope))
    (other : ∀ map, map ≠ arrow.map → s₁.tables.snapshot map scope = s.tables.snapshot map scope)
    {c : Completion} (completed : (Action.completeStart now arrow scope).Yields s₁ c s') :
    s.Grows scope [arrow] [arrow] s' := by
  obtain ⟨books, -⟩ := settled_but.sound.books_completeStart settled_but.consistent seated ha
    completed
  have wf : (s₁.tables.snapshot arrow.map scope).WellFormed := settled_but.sound.wellFormed
  have ext := Snapshot.run_extends wf [arrow.start]
  refine h.grows_of_map (by simp) ?own ?other
  case own =>
    rw [books.snapshot_of_shares ext settled_but.sound seated (.refl scope)]
    exact adds.grows_run h.sound.wellFormed (h.settled arrow.map scope).justified (by simp)
  case other =>
    intro map differ
    rw [books.snapshot_of_other ext settled_but.sound seated (.inl differ)]
    exact other map differ

section Stored

variable {row : Row.ArrowProgress} (h : s.Settled) (seated : s.tables.SeatedIn scope)
  (stored : (Action.storeResolved
    [⟨arrow.map, arrow.id, scope.member, scope.seat, now⟩]).Yields s [row] s₁)
include h seated stored

theorem Settled.snapshot_of_stored {map : Id} (differ : map ≠ arrow.map) :
    s₁.tables.snapshot map scope = s.tables.snapshot map scope := by
  rw [Action.tables_of_storeResolved stored]
  exact (row_of_storeResolved stored).1.snapshot_of_other h.sound.lawful.nodup_seats seated
    (.inl differ)

omit h in
theorem resolvedSet_of_stored :
    s₁.tables.resolvedSet scope = insert arrow.id (s.tables.resolvedSet scope) := by
  obtain ⟨own, same_arrow⟩ := row_of_storeResolved stored
  rw [Action.tables_of_storeResolved stored, Tables.resolvedSet_book own seated]
  ext i
  simp [same_arrow, eq_comm]

theorem Settled.grows_of_stored (ha : arrow ∈ s.tables.arrows) (settled : s₁.Settled) :
    s.Grows scope [arrow] [] s₁ := by
  obtain ⟨-, -, adds⟩ := h.resolve seated ha stored
  refine h.grows_of_map (by simp) (adds.grows (settled.settled arrow.map scope)) fun map differ => ?_
  exact h.snapshot_of_stored seated stored differ

theorem Settled.grows_of_completed (ha : arrow ∈ s.tables.arrows) {c : Completion}
    (completed : (Action.completeStart now arrow scope).Yields s₁ c s') :
    s.Grows scope [arrow] [arrow] s' := by
  obtain ⟨-, -, adds⟩ := h.resolve seated ha stored
  obtain ⟨settled_but, seated₁, ha₁⟩ := h.settledBut_of_stored seated ha stored
  refine h.grows_of_completeStart settled_but seated₁ ha₁ adds (fun map differ => ?_) completed
  exact h.snapshot_of_stored seated stored differ

end Stored

theorem Settled.resolves_resolveArrow (h : s.Settled) (seated : s.tables.SeatedIn scope)
    (ha : arrow ∈ s.tables.arrows) (live : arrow.deletedAt = none) {r : Resolution}
    (done : (Action.resolveArrow now arrow scope).Yields s r s') : s.Resolves scope arrow s' := by
  have settled' := h.resolveArrow seated ha done
  rcases Action.yields_resolveArrow h.sound.lawful.nodup_arrows done with
    ⟨rfl, resolved⟩ | ⟨still_open, row, s₁, stored, course⟩
  · exact h.resolves_self ha resolved
  · have resolved := resolvedSet_of_stored seated stored
    have arrows : s₁.tables.arrows = s.tables.arrows := by
      rw [Action.tables_of_storeResolved stored]
      rfl
    have finishes_iff := Tables.finishes_iff_fullyResolved arrows resolved ha live still_open
    rcases course with ⟨full, c, completed⟩ | ⟨unresolved, rfl⟩
    · exact .spread (finishes_iff.mpr full) (h.grows_of_completed seated stored ha completed)
    · refine .alone (fun finishes => unresolved (finishes_iff.mp finishes)) resolved ?_
      exact h.grows_of_stored seated stored ha settled'

theorem Resolves.of_sameProgress (same : s.SameProgress s₁) (h : s₁.Resolves scope arrow s') :
    s.Resolves scope arrow s' := by
  have grows : ∀ {left}, s₁.Grows scope [arrow] left s' → s.Grows scope [arrow] left s' := by
    intro left grows map
    rw [← same.snapshot_eq]
    exact grows map
  obtain ⟨_, _, tables⟩ := same.tables
  cases h with
  | spread finishes spread =>
    rw [tables] at finishes
    exact .spread finishes (grows spread)
  | alone late resolved alone =>
    rw [tables] at late resolved
    exact .alone late resolved (grows alone)

theorem Resolves.congr {other : Scope} (shares : scope.Shares other)
    (h : s.Resolves scope arrow s') : s.Resolves other arrow s' := by
  have set_eq : ∀ t : Tables, t.resolvedSet scope = t.resolvedSet other := fun t =>
    Set.ext fun i => Tables.Resolved.congr shares
  cases h with
  | spread finishes spread => exact .spread (set_eq s.tables ▸ finishes) (spread.congr shares)
  | alone late resolved alone =>
    rw [set_eq] at late
    rw [set_eq, set_eq] at resolved
    exact .alone late resolved (alone.congr shares)

/-- A question is answered correctly, and the answer accepted, in a scope that shares progress. -/
def Solves (s : Store) (scope : Scope) (question : Id) (s' : Store) : Prop :=
  ∃ now member sub o, (Action.submit now member question sub).Yields s o s' ∧
    o.verdict = .success ∧ o.scope.Shares scope

/-- What a correct answer has done: it has resolved its arrow, if there is one, and completion has
spread from the start nodes that were left, of which there is none unless the arrow finishes its
rule. -/
structure Answered (s : Store) (scope : Scope) (arrow : Option Row.Arrow) (left : List Row.Arrow)
    (s' : Store) : Prop where
  stored : ∀ a ∈ arrow, a ∈ s.tables.arrows
  settled : s'.Settled
  arrows_eq : s'.tables.arrows = s.tables.arrows
  rules_eq : s'.tables.rules = s.tables.rules
  grows : s.Grows scope arrow.toList left s'
  sub : left ⊆ arrow.toList
  late_iff : left = [] ↔ ∀ a ∈ arrow, ¬ s.tables.Finishes (s.tables.resolvedSet scope) a
  alone : left = [] → s'.tables.resolvedSet scope =
    {i | ∃ a ∈ arrow, a.id = i} ∪ s.tables.resolvedSet scope

theorem Settled.answered_of_solves (h : s.Settled) {question : Id}
    (solved : s.Solves scope question s') :
    ∃ left, s.Answered scope (s.tables.arrowOf? question) left s' := by
  obtain ⟨now, member, sub, o, done, correct, shares⟩ := solved
  have settled' := h.submit done
  obtain ⟨_, _, _, _, course⟩ : s.SameCourse s' :=
    (Action.respects_submit stepwise_sameCourse _ _ _ _).of_yields done
  have arrows : s'.tables.arrows = s.tables.arrows := by rw [course]
  have rules : s'.tables.rules = s.tables.rules := by rw [course]
  obtain ⟨q, -, acting, -, s₁, same, resolving⟩ := Action.yields_submit done
  have seated := same.seatedIn (Action.seatedIn_resolveScope acting)
  rcases resolving with ⟨arrow, harrow, -, resolved⟩ | ⟨rfl, no_arrow⟩
  · rw [harrow]
    obtain ⟨ha, -, live⟩ := Tables.mem_of_arrowOf? harrow
    have ha₁ : arrow ∈ s₁.tables.arrows := by rwa [same.arrows_eq]
    have step := (h.frame same).resolves_resolveArrow seated ha₁ live resolved
    cases (step.of_sameProgress same).congr shares with
    | spread finishes grows =>
      exact ⟨[arrow], by simpa using ha, settled', arrows, rules, grows, by simp,
        by simpa using finishes, by simp⟩
    | alone late resolved grows =>
      refine ⟨[], by simpa using ha, settled', arrows, rules, grows, by simp, by simpa using late,
        fun _ => ?_⟩
      rw [resolved]
      ext i
      simp [eq_comm]
  · have none_found : s.tables.arrowOf? question = none := by
      cases harrow : s.tables.arrowOf? question with
      | none => rfl
      | some arrow => exact absurd correct (no_arrow arrow harrow)
    rw [none_found]
    refine ⟨[], by simp, settled', arrows, rules, fun map => ?_, by simp, by simp, fun _ => ?_⟩
    · rw [same.snapshot_eq]
      exact (Snapshot.Adds.refl _).grows (h.settled map scope)
    · obtain ⟨_, _, tables⟩ := same.tables
      rw [tables]
      simp only [Option.mem_def, reduceCtorEq, false_and, exists_false, Set.ofPred_false,
        Set.empty_union]
      rfl

theorem solves_perform (s : Store) (now : Timestamp) (member question : Id) (sub : Submission)
    {acting : Scope} (shares : acting.Shares scope)
    (evaluated : (Action.submit now member question sub s).1.map (fun o => (o.verdict, o.scope)) =
      .ok (.success, acting)) :
    s.Solves scope question (Call.perform s (.submit now member question sub)) := by
  rcases done : Action.submit now member question sub s with ⟨e | o, s'⟩
  · rw [done] at evaluated
    cases evaluated
  · rw [done] at evaluated
    obtain ⟨correct, same⟩ := Prod.mk.inj (Except.ok.inj evaluated)
    refine ⟨now, member, sub, o, ?_, correct, same ▸ shares⟩
    rw [Call.perform, done]
    exact done

end Store

end LearningMap
