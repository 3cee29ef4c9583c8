import LearningMap.Proofs.Service.Calls
import LearningMap.Proofs.Store.Conflict

/-!
# What calls store

A call that goes through adds rows of progress, and its outcome lists exactly those. A submission
adds its answer and the files of the answer besides, a review changes answers under one identifier,
and no other row is touched. All rows of progress belong to the scope that the call acts in. This
holds of every store, whatever its rows refer to.
-/

namespace LearningMap

open Entity

namespace Tables

variable {t t' : Tables} {scope : Scope}

theorem visible_of_seats_eq (seats : t'.seats = t.seats) (scope : Scope) :
    t'.visible scope = t.visible scope := by
  unfold visible
  rw [seats]

theorem completedNodes_of_histories_eq (histories : t'.histories = t.histories)
    (seats : t'.seats = t.seats) (map : Id) (scope : Scope) :
    t'.completedNodes map scope = t.completedNodes map scope := by
  unfold completedNodes completedRows
  rw [histories, visible_of_seats_eq seats]

end Tables

def Row.Answer.decided (a : Row.Answer) (now : Timestamp) (reviewer : Id) (correct : Bool)
    (feedback : Option String) : Row.Answer :=
  { a with
    correct := some correct
    feedback
    reviewer := some reviewer
    reviewedAt := some now
    stamps := { a.stamps with updated := now } }

/-- The scope that a call acts in. -/
def Call.ActsIn (s : Store) (scope : Scope) : Call → Prop
  | submit _ member question submission => ∃ q, s.tables.question? question = some q ∧
      (Action.resolveScope member q.map submission.seat).Yields s scope s
  | review _ _ answer _ => ∃ a, s.tables.answer? answer = some a ∧
      (Action.answerScope a).Yields s scope s

theorem Call.ActsIn.unique {s : Store} {call : Call} {a b : Scope} (ha : call.ActsIn s a)
    (hb : call.ActsIn s b) : a = b := by
  cases call with
  | submit now member question sub =>
    obtain ⟨q, hq, first⟩ := ha
    obtain ⟨q', hq', second⟩ := hb
    obtain rfl : q = q' := Option.some.inj (hq.symm.trans hq')
    exact first.value_eq second
  | review now reviewer answer r =>
    obtain ⟨x, hx, first⟩ := ha
    obtain ⟨y, hy, second⟩ := hb
    obtain rfl : x = y := Option.some.inj (hx.symm.trans hy)
    exact first.value_eq second

theorem Call.ActsIn.seatedIn {s : Store} {call : Call} {scope : Scope} (h : call.ActsIn s scope) :
    s.tables.SeatedIn scope := by
  cases call with
  | submit now member question sub =>
    obtain ⟨q, -, acting⟩ := h
    exact Action.seatedIn_resolveScope acting
  | review now reviewer answer r =>
    obtain ⟨a, -, acting⟩ := h
    exact Action.seatedIn_answerScope acting

namespace Resolution

def progresses (r : Resolution) : List Row.ArrowProgress :=
  r.created.toList ++ r.completion.resolved

theorem resolvedCount_eq (r : Resolution) : r.resolvedCount = r.progresses.length :=
  List.length_append.symm

/-- A scope has stored the rows of a resolution, in order, and nothing else. -/
structure Stored (r : Resolution) (scope : Scope) (t t' : Tables) : Prop where
  tables : t' = t.book r.progresses r.completion.completed
  resolved : ∀ p ∈ r.progresses, p.resolved = true ∧ p.member = scope.member ∧ p.seat = scope.seat
  completed : ∀ h ∈ r.completion.completed, h.member = scope.member ∧ h.seat = scope.seat
  /-- Among the completed nodes, those count as completed before that the scope had completed. -/
  already : ∀ h ∈ r.completion.completed,
    (h.node ∈ r.completion.already ↔ h.node ∈ t.completedNodes h.map scope)

variable {scope : Scope} {t t₁ t' : Tables}

theorem stored_empty (scope : Scope) (t : Tables) : empty.Stored scope t t where
  tables := by simp [empty, progresses, Completion.empty, Tables.book]
  resolved := by simp [empty, progresses, Completion.empty]
  completed := by simp [empty, Completion.empty]
  already := by simp [empty, Completion.empty]

/-- What is done for an arrow. If the scope has resolved it before, there may be a completion from its
start node. If not, a row is made for it, and a completion may come after that. -/
inductive Spreads (s : Store) (scope : Scope) (arrow : Row.Arrow) : Resolution → Store → Prop
  | again (resolved : s.tables.Resolved scope arrow.id) : Spreads s scope arrow .empty s
  | completes {now : Timestamp} {c : Completion} {s' : Store}
      (resolved : s.tables.Resolved scope arrow.id)
      (completed : (Action.completeStart now arrow scope).Yields s c s') :
      Spreads s scope arrow ⟨none, c⟩ s'
  | resolves {now : Timestamp} {row : Row.ArrowProgress} {s' : Store}
      (still_open : ¬ s.tables.Resolved scope arrow.id)
      (stored : (Action.storeResolved
        [⟨arrow.map, arrow.id, scope.member, scope.seat, now⟩]).Yields s [row] s') :
      Spreads s scope arrow ⟨some row, .empty⟩ s'
  | unlocks {now later : Timestamp} {row : Row.ArrowProgress} {c : Completion} {s₁ s' : Store}
      (still_open : ¬ s.tables.Resolved scope arrow.id)
      (stored : (Action.storeResolved
        [⟨arrow.map, arrow.id, scope.member, scope.seat, now⟩]).Yields s [row] s₁)
      (completed : (Action.completeStart later arrow scope).Yields s₁ c s') :
      Spreads s scope arrow ⟨some row, c⟩ s'

theorem Stored.cons {row : Row.ArrowProgress} {c : Completion} (made : t₁ = t.book [row] [])
    (own : row.resolved = true ∧ row.member = scope.member ∧ row.seat = scope.seat)
    (h : Stored ⟨none, c⟩ scope t₁ t') : Stored ⟨some row, c⟩ scope t t' where
  tables := by
    rw [h.tables, made]
    simp [Tables.book, progresses]
  resolved p hp := by
    rcases List.mem_cons.mp hp with rfl | later
    · exact own
    · exact h.resolved p later
  completed := h.completed
  already q hq := by
    have before : t₁.completedNodes q.map scope = t.completedNodes q.map scope :=
      Tables.completedNodes_of_histories_eq (by simp [made, Tables.book]) (by rw [made]; rfl) _ _
    rw [h.already q hq, before]

end Resolution

namespace Action

variable {s s' : Store} {scope : Scope} {now : Timestamp} {arrow : Row.Arrow}

theorem tables_of_insert {ρ : Type} [Entity ρ] {onClash : OnClash} {new added : List ρ}
    (done : (insert onClash new).Yields s added s') :
    s'.tables = setRows s.tables (rows s.tables ++ added) ∧
      ∀ q ∈ added, ∃ r ∈ new, ∃ i, q = withId r i := by
  obtain ⟨last, hadd, -, rfl⟩ := yields_insert.mp done
  exact ⟨rfl, exists_of_mem_addRows hadd⟩

theorem stored_completeNodes {actor : Actor} {nodes : List Row.Node} {c : Completion}
    (acting : actor.scope? = some scope) (done : (completeNodes now actor nodes).Yields s c s') :
    Resolution.Stored ⟨none, c⟩ scope s.tables s'.tables := by
  cases nodes with
  | nil =>
    obtain ⟨rfl, rfl⟩ := yields_pure.mp done
    exact Resolution.stored_empty scope _
  | cons first rest =>
    obtain ⟨-, σ, acting', -, s₁, resolved, completed, already, -⟩ :=
      yields_completeNodes_cons.mp done
    obtain rfl : scope = σ := Option.some.inj (acting.symm.trans acting')
    obtain ⟨tables₁, given₁⟩ := tables_of_insert resolved
    obtain ⟨tables₂, given₂⟩ := tables_of_insert completed
    rw [Snapshot.propagate_eq] at given₁ given₂
    simp only [Plan.ofRun, List.map_map, List.mem_map, exists_exists_and_eq_and] at given₁ given₂
    refine ⟨?tables, ?resolved, ?completed, ?already⟩
    case tables =>
      rw [tables₂, tables₁]
      rfl
    case resolved =>
      intro p hp
      obtain ⟨a, -, i, rfl⟩ := given₁ p hp
      exact ⟨rfl, rfl, rfl⟩
    case completed =>
      intro h hh
      obtain ⟨q, -, i, rfl⟩ := given₂ h hh
      exact ⟨rfl, rfl⟩
    case already =>
      intro h hh
      obtain ⟨q, -, i, same⟩ := given₂ h hh
      have on_map : h.map = first.map := by
        rw [same]
        exact (Snapshot.map_run _ _).trans Tables.map_snapshot
      have among : h.node ∈ c.completed.map (·.node) := List.mem_map_of_mem hh
      rw [already, IdSet.mem_ofList, List.mem_filter, decide_eq_true_eq, and_iff_right among,
        Tables.nodes_snapshot, on_map]

theorem stored_completeStart {c : Completion}
    (done : (completeStart now arrow scope).Yields s c s') :
    Resolution.Stored ⟨none, c⟩ scope s.tables s'.tables := by
  obtain ⟨start, -, -, done⟩ := yields_completeStart done
  exact stored_completeNodes (Scope.scope?_toActor scope) done

theorem own_of_storeResolved {row : Row.ArrowProgress} (stored : (storeResolved
    [⟨arrow.map, arrow.id, scope.member, scope.seat, now⟩]).Yields s [row] s') :
    row.resolved = true ∧ row.member = scope.member ∧ row.seat = scope.seat := by
  obtain ⟨done, -, own⟩ := (Store.row_of_storeResolved stored).1.resolved row List.mem_cons_self
  exact ⟨done, own⟩

theorem spreads_resolveArrow {r : Resolution} (done : (resolveArrow now arrow scope).Yields s r s') :
    r.Spreads s scope arrow s' := by
  rcases steps_of_resolveArrow done with
    ⟨rfl, rfl, resolved⟩ | ⟨still_open, row, c, s₁, rfl, stored, rest⟩
  · exact .again resolved
  · split at rest
    · exact .unlocks still_open stored rest
    · obtain ⟨rfl, rfl⟩ := rest
      exact .resolves still_open stored

theorem spreads_acceptArrow {r : Resolution} (done : (acceptArrow now arrow scope).Yields s r s') :
    r.Spreads s scope arrow s' := by
  obtain ⟨c, s₁, completed, ⟨rfl, rfl, resolved⟩ | ⟨still_open, row, rfl, stored⟩⟩ :=
    steps_of_acceptArrow done
  · exact .completes resolved completed
  · exact .unlocks still_open stored completed

end Action

theorem Resolution.Spreads.stored {s s' : Store} {scope : Scope} {arrow : Row.Arrow} {r : Resolution}
    (h : r.Spreads s scope arrow s') : r.Stored scope s.tables s'.tables := by
  cases h with
  | again => exact stored_empty scope _
  | completes _ completed => exact Action.stored_completeStart completed
  | resolves _ stored =>
    exact (stored_empty scope _).cons (Action.tables_of_storeResolved stored)
      (Action.own_of_storeResolved stored)
  | unlocks _ stored completed =>
    exact (Action.stored_completeStart completed).cons (Action.tables_of_storeResolved stored)
      (Action.own_of_storeResolved stored)

namespace Action

variable {s s' : Store} {scope : Scope} {now : Timestamp}

/-- What a submission that goes through has stored: one answer of its scope, the files of the
answer, and the rows of a resolution. -/
theorem stored_submit {member question : Id} {sub : Submission} {o : SubmissionOutcome}
    (done : (submit now member question sub).Yields s o s') :
    (Call.submit now member question sub).ActsIn s o.scope ∧
    (o.answer.member = o.scope.member ∧ o.answer.seat = o.scope.seat) ∧
    o.verdict = .ofCorrect o.answer.correct ∧
    o.resolution.Stored o.scope
      { s.tables with
        answers := s.tables.answers ++ [o.answer]
        answerFiles := s.tables.answerFiles ++ o.files } s'.tables := by
  obtain ⟨q, text, correct, s₁, s₂, hq, acting, -, answered, filed, checked, resolving⟩ :=
    steps_of_submit done
  obtain ⟨_, -, answered⟩ := (reads_checkTexts _).yields_bind.mp answered
  obtain ⟨inserted, made⟩ := yields_insertOne answered
  obtain ⟨_, -, filed⟩ := (reads_checkTexts _).yields_bind.mp filed
  have tables : s₂.tables =
      { s.tables with
        answers := s.tables.answers ++ [o.answer]
        answerFiles := s.tables.answerFiles ++ o.files } := by
    rw [(tables_of_insert filed).1, (tables_of_insert inserted).1]
    rfl
  refine ⟨⟨q, hq, acting⟩, ?own, ?verdict, ?stored⟩
  case own =>
    rw [made, member_resolveScope acting]
    exact ⟨rfl, rfl⟩
  case verdict =>
    rw [made]
    exact checked
  case stored =>
    rw [← tables]
    rcases resolving with ⟨arrow, -, -, resolved⟩ | ⟨rfl, none_resolved, -⟩
    · exact (spreads_resolveArrow resolved).stored
    · rw [none_resolved]
      exact Resolution.stored_empty o.scope _

theorem yields_update_of_find? {ρ : Type} [Entity ρ] {id : Id} {change : ρ → ρ} {r : ρ}
    {changed : Option ρ} (found : (rows s.tables : List ρ).find? (Entity.id · == id) = some r)
    (done : (update id change).Yields s changed s') :
    changed = some (change r) ∧ s'.tables = setRows s.tables
      ((rows s.tables).map fun o => if Entity.id o == id then change o else o) := by
  unfold Yields update at done
  simp only [found] at done
  split at done
  · cases done
  · cases done
    exact ⟨rfl, rfl⟩

theorem own_answerScope {a : Row.Answer} (done : (answerScope a).Yields s scope s') :
    a.member = scope.member ∧ a.seat = scope.seat := by
  obtain ⟨-, ⟨alone, rfl⟩ | ⟨id, found, seated, hfound, rfl⟩⟩ := yields_answerScope.mp done
  · exact ⟨rfl, alone⟩
  · exact ⟨rfl, seated.trans (congrArg some (Tables.mem_of_seating? hfound).2.symm)⟩

theorem yields_answerScope_congr {a b : Row.Answer} (member : b.member = a.member)
    (seat : b.seat = a.seat) (seating : s'.tables.seating? = s.tables.seating?)
    (done : (answerScope b).Yields s' scope s') : (answerScope a).Yields s scope s := by
  rw [yields_answerScope, member, seat, seating] at done
  exact yields_answerScope.mpr ⟨rfl, done.2⟩

theorem yields_storeReview {answer reviewer : Id} {correct : Bool} {feedback : Option String}
    {a : Row.Answer} {changed : Option Row.Answer} (found : s.tables.answer? answer = some a)
    (done : (storeReview now answer correct feedback reviewer).Yields s changed s') :
    changed = some (a.decided now reviewer correct feedback) ∧
      s'.tables = { s.tables with
        answers := s.tables.answers.map fun b =>
          if b.id == answer then b.decided now reviewer correct feedback else b } := by
  obtain ⟨_, -, updated⟩ := (reads_checkTexts _).yields_bind.mp done
  exact yields_update_of_find? found updated

/-- What a review that goes through has stored: its decision in the answers under one identifier,
and the rows of a resolution. -/
theorem stored_review {reviewer answer : Id} {r : Review} {o : ReviewOutcome}
    (done : (review now reviewer answer r).Yields s o s') :
    (Call.review now reviewer answer r).ActsIn s o.scope ∧
      ∃ a, s.tables.answer? answer = some a ∧
        (a.member = o.scope.member ∧ a.seat = o.scope.seat) ∧ ∃ change : Row.Answer → Row.Answer,
        (∀ b, (change b).id = b.id ∧ (change b).member = b.member ∧ (change b).seat = b.seat) ∧
        o.answer = change a ∧
        o.resolution.Stored o.scope
          { s.tables with
            answers := s.tables.answers.map fun b => if b.id == answer then change b else b }
          s'.tables := by
  obtain ⟨a, feedback, s₁, ha, stored, acting, resolving⟩ := steps_of_review done
  obtain ⟨changed, tables⟩ := yields_storeReview ha stored
  replace changed := Option.some.inj changed
  have seating : s₁.tables.seating? = s.tables.seating? := by
    rw [tables]
    rfl
  rw [changed] at acting
  replace acting : (answerScope a).Yields s o.scope s :=
    yields_answerScope_congr rfl rfl seating acting
  refine ⟨⟨a, ha, acting⟩, a, ha, own_answerScope acting, (·.decided now reviewer r.correct feedback),
    fun b => ⟨rfl, rfl, rfl⟩, changed, ?stored⟩
  rw [← tables]
  rcases resolving with ⟨arrow, -, -, resolved⟩ | ⟨rfl, none_resolved, -⟩
  · exact (spreads_acceptArrow resolved).stored
  · rw [none_resolved]
    exact Resolution.stored_empty o.scope _

end Action

end LearningMap
