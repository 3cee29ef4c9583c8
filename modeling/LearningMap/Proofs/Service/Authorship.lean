import LearningMap.Proofs.Service.Ownership

/-!
# Who submitted the answers behind the rows

A submission puts its answer into the store, and a review may later be about that answer; whichever
of the two adds rows of progress, the answer is the cause of these. In a run of calls, each row goes
back to such an answer, and the member of the row is the one who submitted it.
-/

namespace LearningMap

namespace Tables

/-- An answer is stored under an identifier as that of a member. -/
def HoldsAnswer (t : Tables) (member answer : Id) : Prop :=
  ∃ a ∈ t.answers, a.id = answer ∧ a.member = member

end Tables

namespace Call

variable {s : Store} {member answer : Id}

/-- A call of a member submits an answer: it puts it into the store, under an identifier that no
answer had before. -/
def Submits (s : Store) (member answer : Id) (call : Call) : Prop :=
  (∃ now question sub, call = .submit now member question sub) ∧
    answer ∉ s.tables.answers.map (·.id) ∧ answer ∈ (call.perform s).tables.answers.map (·.id)

/-- A call is about an answer, which it submits or reviews. -/
inductive IsAbout (s : Store) (answer : Id) : Call → Prop
  | submits {call : Call} {member : Id} (submits : call.Submits s member answer) :
      IsAbout s answer call
  | reviews {now : Timestamp} {reviewer : Id} {r : Review} :
      IsAbout s answer (.review now reviewer answer r)

end Call

namespace Store

/-- In a run of calls, a member submits an answer. -/
def SubmittedBy (s : Store) (calls : List Call) (member answer : Id) : Prop :=
  ∃ earlier call later, calls = earlier ++ call :: later ∧
    call.Submits (s.after earlier) member answer

/-- In a run of calls, something comes to be stored by a call that is about an answer. -/
def CausedBy (s : Store) (calls : List Call) (stored : Tables → Prop) (answer : Id) : Prop :=
  ∃ earlier call later, calls = earlier ++ call :: later ∧ call.IsAbout (s.after earlier) answer ∧
    ¬ stored (s.after earlier).tables ∧ stored (call.perform (s.after earlier)).tables

theorem after_append (s : Store) (earlier later : List Call) :
    s.after (earlier ++ later) = (s.after earlier).after later :=
  List.foldl_append

theorem exists_first {P : Tables → Prop} {s : Store} {calls : List Call} (before : ¬ P s.tables)
    (after : P (s.after calls).tables) :
    ∃ earlier call later, calls = earlier ++ call :: later ∧ ¬ P (s.after earlier).tables ∧
      P (call.perform (s.after earlier)).tables := by
  induction calls generalizing s with
  | nil => exact absurd after before
  | cons call calls ih =>
    by_cases now : P (call.perform s).tables
    · exact ⟨[], call, calls, rfl, before, now⟩
    · obtain ⟨earlier, first, later, rfl, absent, present⟩ := ih now after
      exact ⟨call :: earlier, first, later, rfl, absent, present⟩

end Store

namespace Call.Does

variable {s s' : Store} {call : Call} {scope : Scope} {a : Row.Answer} {r : Resolution}
  (does : call.Does s scope a r s')
include does

theorem answers_eq : ∃ t₁, call.Writes s.tables a t₁ ∧ s'.tables.answers = t₁.answers := by
  obtain ⟨t₁, writes, stored⟩ := does.stored
  refine ⟨t₁, writes, ?_⟩
  rw [stored.tables]
  rfl

theorem holdsAnswer : s'.tables.HoldsAnswer a.member a.id ∧
    ∀ member answer, s.tables.HoldsAnswer member answer → s'.tables.HoldsAnswer member answer := by
  obtain ⟨t₁, writes, answers⟩ := does.answers_eq
  unfold Tables.HoldsAnswer
  rw [answers]
  cases writes with
  | submit found made =>
    constructor
    · exact ⟨a, List.mem_append_right _ (List.mem_singleton.mpr rfl), rfl, rfl⟩
    · rintro _ _ ⟨b, hb, rfl, rfl⟩
      exact ⟨b, List.mem_append_left _ hb, rfl, rfl⟩
  | @review now reviewer answer review feedback a₀ found =>
    have kept : ∀ b ∈ s.tables.answers, ∃ b' ∈ s.tables.answers.map fun b =>
        if b.id == answer then b.decided now reviewer review.correct feedback else b,
        b'.id = b.id ∧ b'.member = b.member := by
      intro b hb
      refine ⟨_, List.mem_map_of_mem hb, ?_⟩
      split
      · exact ⟨rfl, rfl⟩
      · exact ⟨rfl, rfl⟩
    constructor
    · exact kept a₀ (Tables.mem_of_answer? found).1
    · rintro _ _ ⟨b, hb, rfl, rfl⟩
      exact kept b hb

theorem isAbout_iff (lawful : s.Lawful) (performed : s' = call.perform s) {answer : Id} :
    call.IsAbout s answer ↔ answer = a.id := by
  have distinct : (s'.tables.answers.map (·.id)).Nodup := (lawful.does does .answers).sound.distinct
  obtain ⟨t₁, writes, answers⟩ := does.answers_eq
  cases writes with
  | @submit now member question sub q i seat text correct files a found made =>
    change s'.tables.answers = s.tables.answers ++ [a] at answers
    rw [answers, List.map_append, List.map_singleton] at distinct
    have absent : a.id ∉ s.tables.answers.map (·.id) := fun old =>
      List.disjoint_of_nodup_append distinct old (List.mem_singleton.mpr rfl)
    constructor
    · rintro ⟨-, new, present⟩
      rw [← performed, answers, List.map_append, List.map_singleton, List.mem_append] at present
      exact List.mem_singleton.mp (present.resolve_left new)
    · rintro rfl
      have submits : (Call.submit now member question sub).Submits s member a.id := by
        refine ⟨⟨_, _, _, rfl⟩, absent, ?_⟩
        rw [← performed, answers, List.map_append, List.map_singleton]
        exact List.mem_append_right _ (List.mem_singleton.mpr rfl)
      exact .submits submits
  | review found =>
    have same := (Tables.mem_of_answer? found).2
    constructor
    · rintro (⟨⟨⟨_, _, _, ⟨⟩⟩, -⟩⟩ | _)
      exact same.symm
    · rintro rfl
      rw [Row.Answer.decided, same]
      exact .reviews

theorem member_of_rows :
    (∀ p ∈ s'.tables.progresses, p ∉ s.tables.progresses → a.member = p.member) ∧
      ∀ h ∈ s'.tables.histories, h ∉ s.tables.histories → a.member = h.member := by
  obtain ⟨progresses, histories⟩ := does.rows_eq
  obtain ⟨t₁, -, stored⟩ := does.stored
  rw [does.own.1, progresses, histories]
  constructor
  · intro p hp new
    exact (stored.resolved p ((List.mem_append.mp hp).resolve_left new)).2.1.symm
  · intro h hh new
    exact (stored.completed h ((List.mem_append.mp hh).resolve_left new)).1.symm

end Call.Does

namespace Call

variable {s : Store} {call : Call} {member answer : Id}

theorem holdsAnswer_perform (h : s.tables.HoldsAnswer member answer) :
    (call.perform s).tables.HoldsAnswer member answer := by
  rcases call.does_or_fails s with ⟨scope, a, r, does⟩ | same
  · exact does.holdsAnswer.2 member answer h
  · rwa [same]

theorem ActsIn.member_of_submit {now : Timestamp} {question : Id} {sub : Submission} {scope : Scope}
    (acting : (submit now member question sub).ActsIn s scope) : scope.member = member := by
  obtain ⟨q, -, acting⟩ := acting
  exact Action.member_resolveScope acting

theorem Submits.holdsAnswer (lawful : s.Lawful) (submits : call.Submits s member answer) :
    (call.perform s).tables.HoldsAnswer member answer := by
  obtain ⟨⟨now, question, sub, rfl⟩, absent, present⟩ := submits
  rcases (submit now member question sub).does_or_fails s with ⟨scope, a, r, does⟩ | same
  · obtain rfl : answer = a.id :=
      (does.isAbout_iff lawful rfl).mp (.submits ⟨⟨_, _, _, rfl⟩, absent, present⟩)
    obtain ⟨b, hb, same_id, own⟩ := does.holdsAnswer.1
    exact ⟨b, hb, same_id, (own.trans does.own.1).trans does.acting.member_of_submit⟩
  · rw [same] at present
    exact absurd present absent

theorem exists_submits (absent : answer ∉ s.tables.answers.map (·.id))
    (present : answer ∈ (call.perform s).tables.answers.map (·.id)) :
    ∃ member, call.Submits s member answer := by
  cases call with
  | submit now member question sub => exact ⟨member, ⟨_, _, _, rfl⟩, absent, present⟩
  | review now reviewer id r =>
    exfalso
    rcases (review now reviewer id r).does_or_fails s with ⟨scope, a, r, does⟩ | same
    · obtain ⟨t₁, writes, answers⟩ := does.answers_eq
      rw [answers] at present
      cases writes with
      | review found =>
        rw [List.map_map] at present
        obtain ⟨b, hb, rfl⟩ := List.mem_map.mp present
        refine absent (List.mem_map.mpr ⟨b, hb, ?_⟩)
        dsimp only [Function.comp]
        split
        · rfl
        · rfl
    · rw [same] at present
      exact absent present

end Call

namespace Store

variable {s : Store} {calls : List Call} {member answer : Id}

theorem Lawful.after (lawful : s.Lawful) (calls : List Call) : (s.after calls).Lawful :=
  (after_induction (P := fun _ => True) lawful trivial (fun _ _ _ => trivial) calls).1

theorem holdsAnswer_after (h : s.tables.HoldsAnswer member answer) (calls : List Call) :
    (s.after calls).tables.HoldsAnswer member answer := by
  induction calls generalizing s with
  | nil => exact h
  | cons call calls ih => exact ih (Call.holdsAnswer_perform h)

theorem Lawful.unique_of_holdsAnswer (lawful : s.Lawful) {other : Id}
    (h : s.tables.HoldsAnswer member answer) (h' : s.tables.HoldsAnswer other answer) :
    other = member := by
  obtain ⟨a, ha, same, rfl⟩ := h
  obtain ⟨b, hb, same', rfl⟩ := h'
  have distinct : (s.tables.answers.map (·.id)).Nodup := (lawful .answers).sound.distinct
  rw [List.inj_on_of_nodup_map distinct hb ha (same'.trans same.symm)]

theorem submittedBy_iff (lawful : s.Lawful) (no_answer : s.tables.answers = []) :
    s.SubmittedBy calls member answer ↔ (s.after calls).tables.HoldsAnswer member answer := by
  have holds : ∀ {member}, s.SubmittedBy calls member answer →
      (s.after calls).tables.HoldsAnswer member answer := by
    rintro member ⟨earlier, call, later, rfl, submits⟩
    rw [after_append]
    exact holdsAnswer_after (submits.holdsAnswer (lawful.after earlier)) later
  refine ⟨holds, fun held => ?_⟩
  obtain ⟨a, ha, same, -⟩ := id held
  have absent : ¬ answer ∈ s.tables.answers.map (·.id) := by simp [no_answer]
  have present : answer ∈ (s.after calls).tables.answers.map (·.id) :=
    List.mem_map.mpr ⟨a, ha, same⟩
  obtain ⟨earlier, call, later, split, absent, present⟩ :=
    exists_first (P := fun t => answer ∈ t.answers.map (·.id)) absent present
  obtain ⟨author, submits⟩ := Call.exists_submits absent present
  have submitted : s.SubmittedBy calls author answer := ⟨earlier, call, later, split, submits⟩
  rwa [(lawful.after calls).unique_of_holdsAnswer held (holds submitted)] at submitted

/-- What a run has stored goes back to an answer, and every answer that it goes back to was submitted
by one and the same member. -/
structure StemsFrom (s : Store) (calls : List Call) (stored : Tables → Prop) (member : Id) : Prop where
  caused : ∃ answer, s.CausedBy calls stored answer
  author : ∀ answer, s.CausedBy calls stored answer →
    ∀ m, s.SubmittedBy calls m answer ↔ m = member

theorem submittedBy_iff_of_holdsAnswer (lawful : s.Lawful) (no_answer : s.tables.answers = [])
    (held : (s.after calls).tables.HoldsAnswer member answer) (m : Id) :
    s.SubmittedBy calls m answer ↔ m = member := by
  rw [submittedBy_iff lawful no_answer]
  constructor
  · exact (lawful.after calls).unique_of_holdsAnswer held
  · rintro rfl
    exact held

theorem stemsFrom (lawful : s.Lawful) (no_answer : s.tables.answers = []) {stored : Tables → Prop}
    (before : ¬ stored s.tables) (after : stored (s.after calls).tables)
    (own : ∀ {s s' : Store} {call : Call} {scope : Scope} {a : Row.Answer} {r : Resolution},
      call.Does s scope a r s' → ¬ stored s.tables → stored s'.tables → a.member = member) :
    s.StemsFrom calls stored member := by
  constructor
  case caused =>
    obtain ⟨earlier, call, later, split, absent, present⟩ := exists_first before after
    rcases call.does_or_fails (s.after earlier) with ⟨scope, a, r, does⟩ | same
    · have about := (does.isAbout_iff (lawful.after earlier) rfl).mpr rfl
      exact ⟨a.id, earlier, call, later, split, about, absent, present⟩
    · rw [same] at present
      exact absurd present absent
  case author =>
    rintro answer ⟨earlier, call, later, rfl, about, absent, present⟩
    rcases call.does_or_fails (s.after earlier) with ⟨scope, a, r, does⟩ | same
    · apply submittedBy_iff_of_holdsAnswer lawful no_answer
      rw [(does.isAbout_iff (lawful.after earlier) rfl).mp about, ← own does absent present,
        after_append]
      exact holdsAnswer_after does.holdsAnswer.1 later
    · rw [same] at present
      exact absurd present absent

end Store

end LearningMap
