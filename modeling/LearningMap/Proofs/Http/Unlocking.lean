import LearningMap.Proofs.Http.Reporting

/-!
# Announcing that a node was completed

A node may be completed through several rules, and each of them is announced. The announcement says
whether the node had been completed before, and it asks what was completed before the call. Hence
all announcements of the first call that completes a node for a scope say that it had not been,
however many rules that call records, and all later ones say that it had been.
-/

namespace LearningMap

open Entity

namespace Event

/-- An event is about a scope: it carries the play, and without a play the member. -/
def concerns (e : Event) (scope : Scope) : Bool :=
  e.play == scope.play && (scope.play.isSome || e.member == some scope.member)

def unlocks (e : Event) (scope : Scope) (node : Id) : Bool :=
  e.name == "node.completed" && e.source == some node && e.concerns scope

/-- What an event says of an earlier completion, if it says anything of it. -/
def already? (e : Event) : Option Bool :=
  match e.payload.member? "already_completed" with
  | some (.bool b) => some b
  | _ => none

/-- An event tells a scope that a node was completed and had not been before. -/
def opens (e : Event) (scope : Scope) (node : Id) : Bool :=
  e.unlocks scope node && e.already? == some false

theorem FromScope.concerns_iff {e : Event} {scope other : Scope} (h : e.FromScope scope) :
    e.concerns other = true ↔ other.Shares scope := by
  rw [concerns, h.1, h.2]
  cases scope with
  | solo m =>
    cases other with
    | solo n =>
      simp only [Scope.play, Scope.member, beq_self_eq_true, Option.isSome_none, Bool.false_or,
        Bool.true_and, beq_iff_eq, Option.some.injEq, Scope.shares_solo]
      exact eq_comm
    | seated n u q => simp [Scope.play]
  | seated m s p =>
    cases other with
    | solo n => simp [Scope.play]
    | seated n u q =>
      simp only [Scope.play, Option.isSome_some, Bool.true_or, Bool.and_true, beq_iff_eq,
        Option.some.injEq, Scope.shares_seated]
      exact eq_comm

theorem unlocks_eq_false_of_name {e : Event} (other : e.name ≠ "node.completed") (scope : Scope)
    (node : Id) : e.unlocks scope node = false := by
  rw [unlocks, beq_false_of_ne other, Bool.false_and, Bool.false_and]

end Event

theorem Row.Answer.name_of_mem_submissionEvents {a : Row.Answer} {verdict : Verdict} {scope : Scope}
    {e : Event} (he : e ∈ a.submissionEvents verdict scope) : e.name ≠ "node.completed" := by
  rcases List.mem_cons.mp he with rfl | he
  · exact (by decide : "answer.submitted" ≠ "node.completed")
  · cases verdict with
    | failed => cases he
    | success =>
      rw [List.mem_singleton.mp he]
      exact (by decide : "question.solved" ≠ "node.completed")
    | pending =>
      rw [List.mem_singleton.mp he]
      exact (by decide : "answer.pending_review" ≠ "node.completed")

namespace Call

variable {s s' : Store} {o : Outcome} {scope : Scope} {node : Id}

theorem yields_run {call : Call} (done : call.run.Yields s o s') :
    ∃ scope r answers files front, call.ActsIn s scope ∧
      Resolution.Stored r scope { s.tables with answers, answerFiles := files } s'.tables ∧
      o.events = front ++ r.completion.events scope ∧
      ∀ e ∈ front, e.name ≠ "node.completed" := by
  cases call with
  | submit now member question sub =>
    obtain ⟨p, submitted, rfl⟩ := yields_run_submit done
    obtain ⟨acting, -, -, stored⟩ := Action.stored_submit submitted
    exact ⟨p.scope, p.resolution, _, _, _, acting, stored, rfl,
      fun e he => Row.Answer.name_of_mem_submissionEvents he⟩
  | review now reviewer answer r =>
    obtain ⟨p, reviewed, rfl⟩ := yields_run_review done
    obtain ⟨acting, a, -, -, change, -, -, stored⟩ := Action.stored_review reviewed
    refine ⟨p.scope, p.resolution, _, _, [_], acting, stored, rfl, fun e he => ?_⟩
    rw [List.mem_singleton.mp he]
    exact (by decide : "answer.reviewed" ≠ "node.completed")

end Call

namespace Completion

variable {c : Completion} {scope other : Scope} {node : Id}

def announcement (c : Completion) (scope : Scope) (h : Row.NodeHistory) : Event :=
  (((Event.new "node.completed" h.map).withActor scope).withSource "node" h.node).withPayload
    (.obj [("node_complete_rule_id", .int h.rule),
      ("already_completed", .bool (h.node ∈ c.already))])

theorem events_eq (c : Completion) (scope : Scope) :
    c.events scope = c.completed.map (c.announcement scope) := rfl

theorem unlocks_announcement {h : Row.NodeHistory} :
    (c.announcement scope h).unlocks other node = true ↔ other.Shares scope ∧ h.node = node := by
  have from_scope : (c.announcement scope h).FromScope scope := ⟨rfl, rfl⟩
  have source : (c.announcement scope h).source = some h.node := rfl
  have name : (c.announcement scope h).name = "node.completed" := rfl
  rw [← from_scope.concerns_iff, Event.unlocks, source, name]
  simp only [beq_self_eq_true, Bool.true_and, Bool.and_eq_true, beq_iff_eq, Option.some.injEq]
  exact and_comm

theorem already?_announcement (h : Row.NodeHistory) :
    (c.announcement scope h).already? = some (decide (h.node ∈ c.already)) := rfl

end Completion

theorem Tables.mem_completedNodes_iff_row {t : Tables} {scope : Scope} {map node : Id} :
    node ∈ t.completedNodes map scope ↔ ∃ h ∈ t.histories,
      t.visible scope h.member h.seat = true ∧ h.map = map ∧ h.node = node := by
  simp only [completedNodes, completedRows, IdSet.mem_ofList, List.mem_map, List.mem_filter,
    Bool.and_eq_true, beq_iff_eq]
  constructor
  · rintro ⟨h, ⟨hh, on_map, seen⟩, same⟩
    exact ⟨h, hh, seen, on_map, same⟩
  · rintro ⟨h, hh, seen, on_map, same⟩
    exact ⟨h, ⟨hh, on_map, seen⟩, same⟩

theorem Tables.completedNodes_congr {t : Tables} {a b : Scope} (shares : a.Shares b) (map : Id) :
    t.completedNodes map a = t.completedNodes map b := by
  unfold completedNodes completedRows
  simp only [visible_congr shares]

theorem Resolution.Stored.mem_completedNodes {r : Resolution} {scope other : Scope} {t t' : Tables}
    (stored : r.Stored scope t t') (distinct : (t.seats.map (·.id)).Nodup)
    (seated : t.SeatedIn scope) {map node : Id} :
    node ∈ t'.completedNodes map other ↔ node ∈ t.completedNodes map other ∨
      other.Shares scope ∧ ∃ h ∈ r.completion.completed, h.map = map ∧ h.node = node := by
  have seen : ∀ h ∈ r.completion.completed,
      t.visible other h.member h.seat = true ↔ other.Shares scope := by
    intro h hh
    obtain ⟨member, seat⟩ := stored.completed h hh
    rw [member, seat]
    exact Tables.visible_iff_shares distinct seated other
  rw [Tables.mem_completedNodes_iff_row, Tables.mem_completedNodes_iff_row, stored.tables]
  constructor
  · rintro ⟨h, hh, visible, same⟩
    rcases List.mem_append.mp hh with old | new
    · exact .inl ⟨h, old, visible, same⟩
    · exact .inr ⟨(seen h new).mp visible, h, new, same⟩
  · rintro (⟨h, old, visible, same⟩ | ⟨shares, h, new, same⟩)
    · exact ⟨h, List.mem_append_left _ old, visible, same⟩
    · exact ⟨h, List.mem_append_right _ new, (seen h new).mpr shares, same⟩

namespace Store

variable {s : Store} {scope : Scope} {node : Id}

/-- What a call announces of a node is told by what a scope had completed before it, and what a
scope has completed after it is what it had before and what was announced. -/
theorem announced_by_call (distinct : (s.tables.seats.map (·.id)).Nodup) (call : Call)
    (scope : Scope) (node : Id) :
    (∀ e ∈ call.published s, e.unlocks scope node = true →
      e.already? = some (decide (node ∈ s.tables.completedNodes e.map scope))) ∧
    ∀ map, node ∈ (call.perform s).tables.completedNodes map scope ↔
      node ∈ s.tables.completedNodes map scope ∨
        ∃ e ∈ call.published s, e.unlocks scope node = true ∧ e.map = map := by
  rw [← Call.snd_run]
  rcases ran : call.run s with ⟨e | o, s'⟩
  · rw [Call.published_of_error ran, call.command.undoes_run _ s e s' ran]
    simp
  · obtain ⟨acting, r, answers, files, front, acts, stored, events, other⟩ := Call.yields_run ran
    have seated := acts.seatedIn
    rw [Call.published_of_yields ran, events]
    have told : ∀ e ∈ front ++ r.completion.events acting, e.unlocks scope node = true →
        ∃ h ∈ r.completion.completed, e = r.completion.announcement acting h ∧
          scope.Shares acting ∧ h.node = node := by
      intro e he unlocks
      rcases List.mem_append.mp he with first | later
      · rw [Event.unlocks_eq_false_of_name (other e first)] at unlocks
        cases unlocks
      · rw [Completion.events_eq] at later
        obtain ⟨h, hh, rfl⟩ := List.mem_map.mp later
        exact ⟨h, hh, rfl, Completion.unlocks_announcement.mp unlocks⟩
    -- The rows of the resolution come on top of tables in which the answer is written already.
    have before : ∀ map scope, Tables.completedNodes { s.tables with answers, answerFiles := files }
        map scope = s.tables.completedNodes map scope :=
      Tables.completedNodes_of_histories_eq rfl rfl
    constructor
    · intro e he unlocks
      obtain ⟨h, hh, rfl, shares, rfl⟩ := told e he unlocks
      rw [Completion.already?_announcement, Tables.completedNodes_congr shares, ← before]
      exact congrArg some (decide_eq_decide.mpr (stored.already h hh))
    · intro map
      rw [stored.mem_completedNodes distinct seated, before]
      refine or_congr_right ⟨?_, ?_⟩
      · rintro ⟨shares, h, hh, on_map, same⟩
        refine ⟨r.completion.announcement acting h, ?_, ?_, on_map⟩
        · exact List.mem_append_right _ (List.mem_map_of_mem hh)
        · exact Completion.unlocks_announcement.mpr ⟨shares, same⟩
      · rintro ⟨e, he, unlocks, on_map⟩
        obtain ⟨h, hh, rfl, shares, same⟩ := told e he unlocks
        exact ⟨shares, h, hh, on_map, same⟩

theorem nodes_perform (s : Store) (call : Call) :
    (call.perform s).tables.nodes = s.tables.nodes := by
  obtain ⟨_, _, _, _, course⟩ := call.respects_perform stepwise_sameCourse s
  rw [course]

theorem rulesFor_after (s : Store) (calls : List Call) (node : Id) :
    (s.after calls).tables.rulesFor node = s.tables.rulesFor node := by
  obtain ⟨_, _, _, _, course⟩ := stepwise_sameCourse.after s calls
  rw [course]
  rfl

/-- A call among others is the first that announces a node to a scope, and all that it announces of
the node opens it. What is announced later tells that the node had been completed before. -/
structure OpensFirst (s : Store) (scope : Scope) (node : Id) (earlier : List Call) (call : Call)
    (later : List Call) : Prop where
  before : ∀ e ∈ s.published earlier, e.unlocks scope node = false
  announced : ∃ e ∈ call.published (s.after earlier), e.unlocks scope node = true
  opening : ∀ e ∈ call.published (s.after earlier), e.unlocks scope node = true →
    e.already? = some false
  repeated : ∀ e ∈ (call.perform (s.after earlier)).published later, e.unlocks scope node = true →
    e.already? = some true

namespace Settled

variable {n : Row.Node}

theorem map_of_mem_completedNodes (h : s.Settled) (hn : n ∈ s.tables.nodes) {map : Id}
    (done : n.id ∈ s.tables.completedNodes map scope) : map = n.map := by
  obtain ⟨q, hq, -, rfl, hnode, full⟩ := h.mem_completedNodes_of_map_iff.mp done
  exact h.map_of_fullyResolved hq hn hnode full

theorem announced (h : s.Settled) (hn : n ∈ s.tables.nodes) (call : Call) (scope : Scope) :
    (∀ e ∈ call.published s, e.unlocks scope n.id = true →
      e.already? = some (decide (n.id ∈ s.tables.completedNodes n.map scope))) ∧
    (n.id ∈ (call.perform s).tables.completedNodes n.map scope ↔
      n.id ∈ s.tables.completedNodes n.map scope ∨
        ∃ e ∈ call.published s, e.unlocks scope n.id = true) := by
  obtain ⟨already, completed⟩ := announced_by_call h.sound.lawful.nodup_seats call scope n.id
  have on_map : ∀ e ∈ call.published s, e.unlocks scope n.id = true → e.map = n.map := by
    intro e he unlocks
    have done := (completed e.map).mpr (.inr ⟨e, he, unlocks, rfl⟩)
    exact (h.perform call).map_of_mem_completedNodes (nodes_perform s call ▸ hn) done
  constructor
  · intro e he unlocks
    rw [already e he unlocks, on_map e he unlocks]
  · rw [completed]
    refine or_congr_right ⟨?_, ?_⟩
    · rintro ⟨e, he, unlocks, -⟩
      exact ⟨e, he, unlocks⟩
    · rintro ⟨e, he, unlocks⟩
      exact ⟨e, he, unlocks, on_map e he unlocks⟩

theorem repeated_of_completed (h : s.Settled) (hn : n ∈ s.tables.nodes)
    (done : n.id ∈ s.tables.completedNodes n.map scope) (calls : List Call) :
    n.id ∈ (s.after calls).tables.completedNodes n.map scope ∧
      ∀ e ∈ s.published calls, e.unlocks scope n.id = true → e.already? = some true := by
  induction calls generalizing s with
  | nil => exact ⟨done, by simp [published]⟩
  | cons call calls ih =>
    obtain ⟨already, completed⟩ := h.announced hn call scope
    have rest := ih (h.perform call) (nodes_perform s call ▸ hn) (completed.mpr (.inl done))
    refine ⟨rest.1, fun e he unlocks => ?_⟩
    rcases List.mem_append.mp he with now | later
    · rw [already e now unlocks, decide_eq_true done]
    · exact rest.2 e later unlocks

/-- A run from a store in which a node is not completed announces nothing of it, or some call opens
it first. -/
theorem opensFirst (h : s.Settled) (hn : n ∈ s.tables.nodes)
    (still_open : n.id ∉ s.tables.completedNodes n.map scope) (calls : List Call) :
    (n.id ∉ (s.after calls).tables.completedNodes n.map scope ∧
        ∀ e ∈ s.published calls, e.unlocks scope n.id = false) ∨
      n.id ∈ (s.after calls).tables.completedNodes n.map scope ∧
        ∃ earlier call later, calls = earlier ++ call :: later ∧
          s.OpensFirst scope n.id earlier call later := by
  induction calls generalizing s with
  | nil => exact .inl ⟨still_open, by simp [published]⟩
  | cons call calls ih =>
    obtain ⟨already, completed⟩ := h.announced hn call scope
    have hn' : n ∈ (call.perform s).tables.nodes := nodes_perform s call ▸ hn
    by_cases unlocked : ∃ e ∈ call.published s, e.unlocks scope n.id = true
    · -- Nothing had completed the node before, so this call opens it, and later ones only repeat it.
      have done := completed.mpr (.inr unlocked)
      obtain ⟨stays, repeated⟩ := (h.perform call).repeated_of_completed hn' done calls
      refine .inr ⟨stays, [], call, calls, rfl, by simp [published], unlocked, ?_, repeated⟩
      intro e he unlocks
      rw [already e he unlocks, decide_eq_false still_open]
    · have none_now : ∀ e ∈ call.published s, e.unlocks scope n.id = false := fun e he =>
        Bool.eq_false_iff.mpr fun unlocks => unlocked ⟨e, he, unlocks⟩
      have open' : n.id ∉ (call.perform s).tables.completedNodes n.map scope := fun done =>
        (completed.mp done).elim still_open unlocked
      rcases ih (h.perform call) hn' open' with
        ⟨never, silent⟩ | ⟨done, earlier, first, later, rfl, opens⟩
      · refine .inl ⟨never, fun e he => ?_⟩
        exact (List.mem_append.mp he).elim (none_now e) (silent e)
      · refine .inr ⟨done, call :: earlier, first, later, rfl, ?_, opens.announced, opens.opening,
          opens.repeated⟩
        intro e he
        exact (List.mem_append.mp he).elim (none_now e) (opens.before e)

theorem length_completed_le (h : s.Settled) {r : Resolution} {acting : Scope} {t : Tables}
    (stored : r.Stored acting t s.tables) (node : Id) :
    (r.completion.completed.filter (·.node == node)).length ≤ (s.tables.rulesFor node).length := by
  have own : ∀ q ∈ r.completion.completed.filter (·.node == node),
      q ∈ r.completion.completed ∧ q.node = node := by
    intro q hq
    rw [List.mem_filter, beq_iff_eq] at hq
    exact hq
  have histories : s.tables.histories = t.histories ++ r.completion.completed := by
    rw [stored.tables]
    rfl
  have distinct : ((r.completion.completed.filter (·.node == node)).map (·.rule)).Nodup := by
    have table : SoundRows s.tables.histories (s.last .histories) :=
      (h.sound.lawful .histories).sound
    have among : (r.completion.completed.filter (·.node == node)).Sublist s.tables.histories := by
      rw [histories]
      exact List.filter_sublist.trans (List.sublist_append_right _ _)
    refine List.pairwise_map.mpr ((table.unique.sublist among).imp_of_mem ?_)
    intro a b ha hb apart same_rule
    obtain ⟨ha, hnode⟩ := own a ha
    obtain ⟨hb, hnode'⟩ := own b hb
    obtain ⟨member, seat⟩ := stored.completed a ha
    obtain ⟨member', seat'⟩ := stored.completed b hb
    have shared : ∃ k ∈ keys a, k ∈ keys b := share_key_history.mpr
      ⟨hnode.trans hnode'.symm, same_rule, member.trans member'.symm, by rw [seat, seat']⟩
    obtain ⟨k, hk, hk'⟩ := shared
    exact apart k hk hk'
  have live : (r.completion.completed.filter (·.node == node)).map (·.rule) ⊆
      (s.tables.rulesFor node).map (·.id) := by
    intro i hi
    obtain ⟨a, ha, rfl⟩ := List.mem_map.mp hi
    obtain ⟨ha, hnode⟩ := own a ha
    have found : a ∈ s.tables.histories := histories ▸ List.mem_append_right _ ha
    obtain ⟨q, hq, alive, hid, same⟩ := h.origin a found
    exact List.mem_map.mpr ⟨q, Tables.mem_rulesFor.mpr ⟨hq, same.trans hnode, alive⟩, hid⟩
  have bound := distinct.length_le_of_subset live
  rwa [List.length_map, List.length_map] at bound

theorem countP_unlocks_le (h : s.Settled) (call : Call) (node : Id) :
    (call.published s).countP (·.unlocks scope node) ≤ (s.tables.rulesFor node).length := by
  have settled := h.perform call
  have rules : (call.perform s).tables.rulesFor node = s.tables.rulesFor node :=
    rulesFor_after s [call] node
  rw [← rules]
  rw [← Call.snd_run] at settled ⊢
  rcases ran : call.run s with ⟨e | o, s'⟩
  · rw [Call.published_of_error ran]
    exact Nat.zero_le _
  · obtain ⟨acting, r, _, _, front, -, stored, events, other⟩ := Call.yields_run ran
    rw [ran] at settled
    have silent : front.countP (·.unlocks scope node) = 0 := by
      refine List.countP_eq_zero.mpr fun e he => ?_
      rw [Event.unlocks_eq_false_of_name (other e he)]
      exact Bool.false_ne_true
    rw [Call.published_of_yields ran, events, List.countP_append, silent, Nat.zero_add,
      Completion.events_eq, List.countP_map]
    refine Nat.le_trans ?_ (settled.length_completed_le stored node)
    rw [← List.countP_eq_length_filter]
    refine List.countP_mono_left fun q _ unlocks => ?_
    exact beq_iff_eq.mpr (Completion.unlocks_announcement.mp unlocks).2

end Settled

theorem OpensFirst.countP_opens {earlier later : List Call} {call : Call}
    (h : s.OpensFirst scope node earlier call later) :
    (s.published (earlier ++ call :: later)).countP (·.opens scope node) =
      (call.published (s.after earlier)).countP (·.unlocks scope node) := by
  have before : (s.published earlier).countP (·.opens scope node) = 0 := by
    refine List.countP_eq_zero.mpr fun e he opens => ?_
    rw [Event.opens, h.before e he] at opens
    cases opens
  have now : (call.published (s.after earlier)).countP (·.opens scope node) =
      (call.published (s.after earlier)).countP (·.unlocks scope node) := by
    refine List.countP_congr fun e he => ?_
    rw [Event.opens, Bool.and_eq_true, beq_iff_eq]
    exact ⟨fun opens => opens.1, fun unlocks => ⟨unlocks, h.opening e he unlocks⟩⟩
  have later :
      ((call.perform (s.after earlier)).published later).countP (·.opens scope node) = 0 := by
    refine List.countP_eq_zero.mpr fun e he opens => ?_
    rw [Event.opens, Bool.and_eq_true, beq_iff_eq] at opens
    rw [h.repeated e he opens.1] at opens
    cases opens.2
  rw [published_append, published, List.countP_append, List.countP_append, before, now, later,
    Nat.zero_add, Nat.add_zero]

/-- In a run of submissions and reviews from no progress, one call opens a node for a scope, if any
does: nothing is announced of the node before it, what this call announces says that the node had
not been completed before, and whatever is announced later says that it had been. So as many
announcements open the node as this call has for it, which are at most as many as the node has live
rules, and at most one where it has one rule. -/
theorem unlock_opened_by_one_call (fresh : s.Fresh) (calls : List Call) (scope : Scope)
    {n : Row.Node} (hn : n ∈ s.tables.nodes) :
    ((n.id ∉ (s.after calls).tables.completedNodes n.map scope ∧
        ∀ e ∈ s.published calls, e.unlocks scope n.id = false) ∨
      n.id ∈ (s.after calls).tables.completedNodes n.map scope ∧
        ∃ earlier call later, calls = earlier ++ call :: later ∧
          s.OpensFirst scope n.id earlier call later ∧
          (s.published calls).countP (·.opens scope n.id) =
            (call.published (s.after earlier)).countP (·.unlocks scope n.id)) ∧
    (s.published calls).countP (·.opens scope n.id) ≤ (s.tables.rulesFor n.id).length := by
  have settled : s.Settled := (fresh.reached []).settled
  have still_open : n.id ∉ s.tables.completedNodes n.map scope := by
    rw [Tables.mem_completedNodes_iff_row, fresh.no_history]
    simp
  rcases settled.opensFirst hn still_open calls with
    ⟨never, silent⟩ | ⟨done, earlier, call, later, rfl, opens⟩
  · have none_opens : (s.published calls).countP (·.opens scope n.id) = 0 := by
      refine List.countP_eq_zero.mpr fun e he opens => ?_
      rw [Event.opens, silent e he] at opens
      cases opens
    exact ⟨.inl ⟨never, silent⟩, none_opens ▸ Nat.zero_le _⟩
  · refine ⟨.inr ⟨done, earlier, call, later, rfl, opens, opens.countP_opens⟩, ?_⟩
    rw [opens.countP_opens, ← rulesFor_after s earlier]
    exact (settled.after earlier).countP_unlocks_le call n.id

end Store

/-- Node 2 has rule 1, which question 1 resolves, and rule 3 behind node 3, which question 2
resolves. The arrow of question 2 leaves the node of question 1, or another one. -/
def detour (shared : Bool) : Store where
  tables :=
    { members := [⟨1, "ada", none, true, default⟩]
      maps := [⟨1, "Map", false, 1, none, default⟩]
      nodes := [⟨1, 1, "S", "", "", true, none, default⟩, ⟨2, 1, "T", "", "", true, none, default⟩,
        ⟨3, 1, "U", "", "", true, none, default⟩, ⟨4, 1, "V", "", "", true, none, default⟩]
      rules := [⟨1, 1, 2, "", none, default⟩, ⟨2, 1, 3, "", none, default⟩,
        ⟨3, 1, 2, "", none, default⟩]
      questions := [⟨1, 1, "Q", "", ["file"], "manual", true, none, none, none, default⟩,
        ⟨2, 1, "Q", "", ["file"], "manual", true, none, none, none, default⟩]
      arrows := [⟨1, 1, 1, 1, some 1, none, default⟩,
        ⟨2, 1, if shared then 1 else 4, 2, some 2, none, default⟩,
        ⟨3, 1, 3, 3, none, none, default⟩] }
  last := fun _ => 4

theorem detour_fresh (shared : Bool) : (detour shared).Fresh := by
  cases shared <;>
    exact ⟨by decide, ⟨by decide, by decide, by decide, by decide⟩, by decide, rfl, rfl⟩

def detourAnswer (question : Id) : Call := .submit default 1 question ⟨none, [⟨"a", "f"⟩], none⟩

def detourNode : Row.Node := ⟨2, 1, "T", "", "", true, none, default⟩

/-- What is announced of node 2 to member 1. -/
def detourNotices (shared : Bool) (calls : List Call) : List Bool :=
  (((detour shared).published calls).filter (·.unlocks (.solo 1) 2)).filterMap (·.already?)

/-- The second answer completes node 2 again, and says so. -/
theorem unlock_opened_by_one_call_in_detour :
    (detour false).Fresh ∧ detourNode ∈ (detour false).tables.nodes ∧
      detourNotices false [detourAnswer 1, detourAnswer 2] = [false, true] ∧
      ∃ earlier call later, [detourAnswer 1, detourAnswer 2] = earlier ++ call :: later ∧
        (detour false).OpensFirst (.solo 1) 2 earlier call later := by
  have notices : detourNotices false [detourAnswer 1, detourAnswer 2] = [false, true] := by cbv
  have stored : detourNode ∈ (detour false).tables.nodes := by decide
  refine ⟨detour_fresh false, stored, notices, ?_⟩
  obtain ⟨⟨-, silent⟩ | ⟨-, earlier, call, later, split, opens, -⟩, -⟩ :=
    Store.unlock_opened_by_one_call (detour_fresh false) [detourAnswer 1, detourAnswer 2] (.solo 1)
      stored
  · have none_told : ((detour false).published [detourAnswer 1, detourAnswer 2]).filter
        (·.unlocks (.solo 1) 2) = [] :=
      List.filter_eq_nil_iff.mpr fun e he => Bool.eq_false_iff.mp (silent e he)
    rw [detourNotices, none_told] at notices
    cases notices
  · exact ⟨earlier, call, later, split, opens⟩

/-- When both rules are recorded by one answer, both announcements say that node 2 had not been
completed before. -/
theorem unlock_opened_twice :
    (detour true).Fresh ∧ detourNode ∈ (detour true).tables.nodes ∧
      detourNotices true [detourAnswer 1] = [false, false] ∧
      ((detour true).published [detourAnswer 1]).countP (·.opens (.solo 1) 2) = 2 := by
  have stored : detourNode ∈ (detour true).tables.nodes := by decide
  exact ⟨detour_fresh true, stored, by cbv, by cbv⟩

end LearningMap
