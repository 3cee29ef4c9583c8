import LearningMap.Proofs.Service.Effect
import LearningMap.Proofs.Service.Isolation

/-!
# One row for each arrow and rule

The keys of the tables keep a member from storing progress twice on one seat, and no more than that.
That no two seats of a play store the same progress rests on what is asked beforehand: a row for an
arrow is made only if the scope does not see one, and completion adds only what was open in a
snapshot that shows what all seats of the play have done.
-/

namespace LearningMap

namespace Tables

def recordedRows (t : Tables) (scope : Scope) : List Row.NodeHistory :=
  t.histories.filter fun r => t.visible scope r.member r.seat

/-- A scope sees one row for each arrow that it has resolved, and one for each rule that it has
recorded. -/
structure Unique (t : Tables) (scope : Scope) : Prop where
  arrows : ((t.resolvedRows scope).map (·.arrow)).Nodup
  rules : ((t.recordedRows scope).map (·.rule)).Nodup

end Tables

namespace Resolution

/-- The rows of a resolution are of arrows that the scope had not resolved and of rules that it had
not recorded, one for each. -/
structure Novel (r : Resolution) (scope : Scope) (t : Tables) : Prop where
  unresolved : ∀ p ∈ r.progresses, ¬ t.Resolved scope p.arrow
  nodup_arrows : (r.progresses.map (·.arrow)).Nodup
  unrecorded : ∀ h ∈ r.completion.completed, ¬ t.Recorded scope h.rule
  nodup_rules : (r.completion.completed.map (·.rule)).Nodup

variable {r : Resolution} {scope : Scope} {t t₁ t' : Tables}

theorem Novel.cons {row : Row.ArrowProgress} {c : Completion} (made : t₁ = t.book [row] [])
    (done : row.resolved = true) (seen : t.visible scope row.member row.seat = true)
    (still_open : ¬ t.Resolved scope row.arrow) (h : Novel ⟨none, c⟩ scope t₁) :
    Novel ⟨some row, c⟩ scope t := by
  have gains : t.Gains t₁ := ⟨[row], [], t.answers, t.answerFiles, made⟩
  have now_resolved : t₁.Resolved scope row.arrow := by
    rw [made]
    exact ⟨row, List.mem_append_right _ (List.mem_singleton.mpr rfl), done, seen, rfl⟩
  refine ⟨?unresolved, ?nodup_arrows, ?unrecorded, h.nodup_rules⟩
  case unresolved =>
    intro p hp resolved
    rcases List.mem_cons.mp hp with rfl | later
    · exact still_open resolved
    · exact h.unresolved p later (gains.resolved resolved)
  case nodup_arrows =>
    apply List.nodup_cons.mpr
    refine ⟨fun again => ?_, h.nodup_arrows⟩
    obtain ⟨p, hp, same⟩ : ∃ p ∈ c.resolved, p.arrow = row.arrow := List.mem_map.mp again
    rw [← same] at now_resolved
    exact h.unresolved p hp now_resolved
  case unrecorded =>
    intro q hq recorded
    exact h.unrecorded q hq (gains.recorded recorded)

end Resolution

theorem nodup_map_append_filter {α : Type} {f : α → Id} {seen : α → Bool} {old new : List α}
    (nodup_old : (old.map f).Nodup) (nodup_new : (new.map f).Nodup)
    (absent : ∀ r ∈ new, seen r = true → f r ∉ old.map f) :
    ((old ++ new.filter seen).map f).Nodup := by
  rw [List.map_append]
  apply List.Nodup.append nodup_old (nodup_new.sublist (List.filter_sublist.map _))
  intro i among_old among_new
  obtain ⟨r, hr, rfl⟩ := List.mem_map.mp among_new
  obtain ⟨hr, shown⟩ := List.mem_filter.mp hr
  exact absent r hr shown among_old

/-- Novel rows leave every scope with one row for each arrow and rule. A scope that sees them shares
progress with the one that stored them, and so has seen all that this one had. -/
theorem Tables.Unique.stored {t t' : Tables} {scope acting : Scope} {r : Resolution}
    (h : t.Unique scope) (stored : r.Stored acting t t') (novel : r.Novel acting t)
    (distinct : (t.seats.map (·.id)).Nodup) (seated : t.SeatedIn acting) : t'.Unique scope := by
  have shares : ∀ {member : Id} {seat : Option Id}, member = acting.member ∧ seat = acting.seat →
      t.visible scope member seat = true → scope.Shares acting := by
    rintro _ _ ⟨rfl, rfl⟩
    exact (visible_iff_shares distinct seated scope).mp
  obtain rfl := stored.tables
  refine ⟨?arrows, ?rules⟩
  case arrows =>
    have rows : (t.book r.progresses r.completion.completed).resolvedRows scope =
        t.resolvedRows scope ++
          r.progresses.filter fun p => p.resolved && t.visible scope p.member p.seat :=
      List.filter_append _ _
    rw [rows]
    apply nodup_map_append_filter h.arrows novel.nodup_arrows
    intro q hq seen old
    -- An old row of this arrow would have shown the arrow as resolved to the one who stores it.
    obtain ⟨p, hp, same⟩ := List.mem_map.mp old
    obtain ⟨hp, shown⟩ := List.mem_filter.mp hp
    rw [Bool.and_eq_true] at seen shown
    apply novel.unresolved q hq
    rw [← Tables.Resolved.congr (shares (stored.resolved q hq).2 seen.2)]
    exact ⟨p, hp, shown.1, shown.2, same⟩
  case rules =>
    have rows : (t.book r.progresses r.completion.completed).recordedRows scope =
        t.recordedRows scope ++
          r.completion.completed.filter fun p => t.visible scope p.member p.seat :=
      List.filter_append _ _
    rw [rows]
    apply nodup_map_append_filter h.rules novel.nodup_rules
    intro q hq seen old
    obtain ⟨p, hp, same⟩ := List.mem_map.mp old
    obtain ⟨hp, shown⟩ := List.mem_filter.mp hp
    rw [visible_congr (shares (stored.completed q hq) seen)] at shown
    exact novel.unrecorded q hq ⟨p, hp, shown, same⟩

namespace Store

variable {s s₁ s' : Store} {scope : Scope} {now : Timestamp} {arrow : Row.Arrow}

theorem SameProgress.unique (same : s.SameProgress s') (h : s.tables.Unique scope) :
    s'.tables.Unique scope := by
  obtain ⟨_, _, tables⟩ := same.tables
  rw [tables]
  exact ⟨h.arrows, h.rules⟩

end Store

namespace Store

variable {s : Store} {scope : Scope}

theorem Fresh.unique (h : s.Fresh) : s.tables.Unique scope := by
  constructor <;>
    simp [Tables.resolvedRows, Tables.recordedRows, h.no_progress, h.no_history]

end Store

end LearningMap
