import LearningMap.Bus
import Mathlib.Data.List.Basic

/-!
# What a receiver gets from the bus

To a receiver the bus looks like a mailbox of its own: every published event is put into it, and what
a receiver takes out depends on nothing else. `Bus.Serves` relates the two. A bus keeps only the end
of the stream of all events, and a receiver is a position in that stream; the mailbox holds what the
stream has from there on, overrun or not. What is taken out of a mailbox covers, without a gap, what
was put into it, and so every event is accounted for.
-/

namespace LearningMap

variable {ε : Type}

namespace Received

/-- What a receiver got stands for a piece of the stream: an event for itself, a notice of loss for as
many events as it tells. -/
inductive Covers : List (Received ε) → List ε → Prop
  | nil : Covers [] []
  | event (e : ε) {rs : List (Received ε)} {es : List ε} :
      Covers rs es → Covers (.event e :: rs) (e :: es)
  | lagged (lost : List ε) {rs : List (Received ε)} {es : List ε} :
      Covers rs es → Covers (.lagged lost.length :: rs) (lost ++ es)
  | empty {rs : List (Received ε)} {es : List ε} : Covers rs es → Covers (.empty :: rs) es
  | closed {rs : List (Received ε)} {es : List ε} : Covers rs es → Covers (.closed :: rs) es

theorem Covers.append {rs qs : List (Received ε)} {es fs : List ε} (h : Covers rs es)
    (h' : Covers qs fs) : Covers (rs ++ qs) (es ++ fs) := by
  induction h with
  | nil => exact h'
  | event e _ ih => exact .event e ih
  | lagged lost _ ih =>
    rw [List.append_assoc]
    exact .lagged lost ih
  | empty _ ih => exact .empty ih
  | closed _ ih => exact .closed ih

end Received

namespace Bus

inductive Use (ε : Type) where
  | subscribe
  | publish (e : ε)
  | publishAll (es : List ε)
  | receive (receiver : Nat)
  | drop (receiver : Nat)
  | close

def Use.events : Use ε → List ε
  | publish e => [e]
  | publishAll es => es
  | _ => []

/-- A use that a receiver can notice: of the bus, or one of its own. -/
def Use.concerns (r : Nat) : Use ε → Bool
  | subscribe => false
  | receive s | drop s => s == r
  | _ => true

/-- A use that leaves the stream of events as it is. -/
def Use.quiet : Use ε → Bool
  | publish _ | publishAll _ | close => false
  | _ => true

def Use.takesFor (r : Nat) : Use ε → Bool
  | receive s => s == r
  | _ => false

def use (b : Bus ε) : Use ε → Bus ε
  | .subscribe => b.subscribe.2
  | .publish e => b.publish e
  | .publishAll es => b.publishAll es
  | .receive r => (b.receive r).2
  | .drop r => (b.dropReceiver r).2
  | .close => b.close

def after (b : Bus ε) (us : List (Use ε)) : Bus ε := us.foldl use b

/-- What a receiver gets while a bus is used. -/
def got (b : Bus ε) (r : Nat) : List (Use ε) → List (Received ε)
  | [] => []
  | u :: us => (if u.takesFor r then (b.receive r).1.toList else []) ++ (b.use u).got r us

@[simp] theorem after_nil (b : Bus ε) : b.after [] = b := rfl

@[simp] theorem after_cons (b : Bus ε) (u : Use ε) (us : List (Use ε)) :
    b.after (u :: us) = (b.use u).after us := rfl

end Bus

/-- The events that wait for one receiver, of which the last `size` can still be had. -/
structure Mailbox (ε : Type) where
  size : Nat
  closed : Bool
  waiting : List ε

namespace Mailbox

open Received Bus

def put (m : Mailbox ε) (es : List ε) : Mailbox ε := { m with waiting := m.waiting ++ es }

def close (m : Mailbox ε) : Mailbox ε := { m with closed := true }

/-- How many of the waiting events can no longer be had. -/
def lost (m : Mailbox ε) : Nat := m.waiting.length - m.size

def nothing (m : Mailbox ε) : Received ε := if m.closed then .closed else .empty

def take (m : Mailbox ε) : Received ε × Mailbox ε :=
  if m.lost = 0 then
    match m.waiting with
    | [] => (m.nothing, m)
    | e :: rest => (.event e, { m with waiting := rest })
  else (.lagged m.lost, { m with waiting := m.waiting.drop m.lost })

def use (m : Mailbox ε) (r : Nat) (u : Use ε) : Mailbox ε :=
  match u with
  | .publish e => m.put [e]
  | .publishAll es => m.put es
  | .close => m.close
  | .receive s => if s = r then m.take.2 else m
  | .subscribe | .drop _ => m

def after (m : Mailbox ε) (r : Nat) (us : List (Use ε)) : Mailbox ε := us.foldl (·.use r) m

def got (m : Mailbox ε) (r : Nat) : List (Use ε) → List (Received ε)
  | [] => []
  | u :: us => (if u.takesFor r then [m.take.1] else []) ++ (m.use r u).got r us

/-- All that is to be had without another event: a notice of what is lost, and the rest. -/
def ahead (m : Mailbox ε) : List (Received ε) :=
  (if m.lost = 0 then [] else [.lagged m.lost]) ++ (m.waiting.drop m.lost).map .event

theorem take_of_nil {m : Mailbox ε} (h : m.waiting = []) : m.take = (m.nothing, m) := by
  simp [take, lost, h]

theorem take_of_cons {m : Mailbox ε} {e : ε} {rest : List ε} (reach : m.lost = 0)
    (h : m.waiting = e :: rest) : m.take = (.event e, { m with waiting := rest }) := by
  simp [take, reach, h]

theorem take_of_lost {m : Mailbox ε} (overrun : m.lost ≠ 0) :
    m.take = (.lagged m.lost, { m with waiting := m.waiting.drop m.lost }) := by
  simp [take, overrun]

theorem ahead_of_reach {m : Mailbox ε} (reach : m.lost = 0) :
    m.ahead = m.waiting.map .event := by
  simp [ahead, reach]

theorem covers_take (m : Mailbox ε) :
    ∃ covered, m.waiting = covered ++ m.take.2.waiting ∧ Covers [m.take.1] covered := by
  by_cases reach : m.lost = 0
  · cases waiting : m.waiting with
    | nil =>
      have idle : Covers [m.nothing] [] := by
        unfold nothing
        split
        · exact .closed .nil
        · exact .empty .nil
      rw [take_of_nil waiting]
      exact ⟨[], by simp [waiting], idle⟩
    | cons e rest =>
      rw [take_of_cons reach waiting]
      exact ⟨[e], rfl, .event e .nil⟩
  · rw [take_of_lost reach]
    refine ⟨m.waiting.take m.lost, (List.take_append_drop m.lost m.waiting).symm, ?_⟩
    have told : (m.waiting.take m.lost).length = m.lost := by
      simp only [List.length_take, lost]
      omega
    simpa [told] using Covers.lagged (m.waiting.take m.lost) Covers.nil

/-- Nothing gets out of a mailbox without being accounted for, and nothing gets lost in it. -/
theorem covers_use (m : Mailbox ε) (r : Nat) (u : Use ε) :
    ∃ covered, m.waiting ++ u.events = covered ++ (m.use r u).waiting ∧
      Covers (if u.takesFor r then [m.take.1] else []) covered := by
  cases u with
  | receive s =>
    by_cases own : s = r
    · simpa [Use.events, Use.takesFor, use, own] using m.covers_take
    · exact ⟨[], by simp [Use.events, use, own], by simp [Use.takesFor, own, Covers.nil]⟩
  | _ => exact ⟨[], by simp [Use.events, use, put, close], by simp [Use.takesFor, Covers.nil]⟩

theorem covers_after (m : Mailbox ε) (r : Nat) (us : List (Use ε)) :
    ∃ covered, m.waiting ++ us.flatMap Use.events = covered ++ (m.after r us).waiting ∧
      Covers (m.got r us) covered := by
  induction us generalizing m with
  | nil => exact ⟨[], by simp [after], .nil⟩
  | cons u us ih =>
    obtain ⟨first, hfirst, covers⟩ := m.covers_use r u
    obtain ⟨rest, hrest, covers'⟩ := ih (m.use r u)
    refine ⟨first ++ rest, ?_, covers.append covers'⟩
    rw [List.flatMap_cons, ← List.append_assoc, hfirst, List.append_assoc, hrest, ← List.append_assoc]
    rfl

theorem take_append_replicate_succ (l : List (Received ε)) (x : Received ε) (n : Nat) :
    (l ++ List.replicate (n + 1) x).take n = (l ++ List.replicate n x).take n := by
  simp only [List.take_append, List.take_replicate]
  congr 2
  omega

theorem nothing_take (m : Mailbox ε) : m.take.2.nothing = m.nothing := by
  unfold take
  split
  · split <;> rfl
  · rfl

theorem ahead_eq_cons {m : Mailbox ε} (some_waiting : m.waiting ≠ []) :
    m.ahead = m.take.1 :: m.take.2.ahead := by
  by_cases reach : m.lost = 0
  · obtain ⟨e, rest, waiting⟩ := List.exists_cons_of_ne_nil some_waiting
    have reach' : ({ m with waiting := rest } : Mailbox ε).lost = 0 := by
      have := congrArg List.length waiting
      simp only [lost, List.length_cons] at reach this ⊢
      omega
    rw [take_of_cons reach waiting, ahead_of_reach reach, ahead_of_reach reach', waiting]
    rfl
  · have reach' : ({ m with waiting := m.waiting.drop m.lost } : Mailbox ε).lost = 0 := by
      simp only [lost, List.length_drop]
      omega
    rw [take_of_lost reach, ahead_of_reach reach', ahead, if_neg reach]
    rfl

/-- As long as nothing is published, a receiver gets what lies ahead and then nothing, whatever
else is done. -/
theorem got_quiet (m : Mailbox ε) (r : Nat) (us : List (Use ε)) (quiet : ∀ u ∈ us, u.quiet = true) :
    m.got r us = (m.ahead ++ List.replicate (us.countP (·.takesFor r)) m.nothing).take
      (us.countP (·.takesFor r)) := by
  induction us generalizing m with
  | nil => simp [got]
  | cons u us ih =>
    have rest := ih (m.use r u) fun v hv => quiet v (List.mem_cons_of_mem u hv)
    by_cases own : u.takesFor r = true
    · obtain rfl : u = .receive r := by
        cases u <;> simp_all [Use.takesFor]
      have taken : m.use r (.receive r) = m.take.2 := by simp [use]
      rw [taken, nothing_take] at rest
      rw [got, if_pos own, taken, rest, List.countP_cons_of_pos own]
      by_cases waiting : m.waiting = []
      · have none_ahead : m.ahead = [] := by simp [ahead, lost, waiting]
        simp [none_ahead, take_of_nil waiting, List.replicate_succ]
      · rw [ahead_eq_cons waiting, List.cons_append, List.cons_append, List.take_succ_cons,
          take_append_replicate_succ]
        rfl
    · have same : m.use r u = m := by
        have := quiet u List.mem_cons_self
        cases u <;> simp_all [Use.quiet, use, Use.takesFor]
      rw [same] at rest
      rw [got, if_neg own, same, rest, List.countP_cons_of_neg own, List.nil_append]

/-- Uses that do not concern a receiver make no difference to it. -/
theorem got_filter_concerns (m : Mailbox ε) (r : Nat) (us : List (Use ε)) :
    m.got r (us.filter (·.concerns r)) = m.got r us := by
  induction us generalizing m with
  | nil => rfl
  | cons u us ih =>
    by_cases concerned : u.concerns r = true
    · rw [List.filter_cons_of_pos concerned, got, got, ih]
    · have same : m.use r u = m := by
        cases u <;> simp_all [Use.concerns, use]
      have none_taken : u.takesFor r ≠ true := by
        cases u <;> simp_all [Use.concerns, Use.takesFor]
      rw [List.filter_cons_of_neg concerned, got, if_neg none_taken, same, ih, List.nil_append]

end Mailbox

namespace Bus

/-- A bus keeps the end of the stream of all events. -/
structure Keeps (b : Bus ε) (stream : List ε) : Prop where
  published : b.published = stream.length
  kept : b.kept = stream.drop (stream.length - b.size)

/-- A receiver finds on the bus what its mailbox holds. -/
def Serves (b : Bus ε) (r : Nat) (m : Mailbox ε) : Prop :=
  ∃ stream p, b.Keeps stream ∧ p ≤ stream.length ∧ b.position? r = some p ∧
    m = ⟨b.size, b.closed, stream.drop p⟩

section Keeps

variable {b : Bus ε} {stream : List ε} (h : b.Keeps stream)
include h

theorem Keeps.oldest : b.oldest = stream.length - b.size := by
  rw [Bus.oldest, h.kept, h.published, List.length_drop]
  omega

theorem Keeps.publish (e : ε) : (b.publish e).Keeps (stream ++ [e]) where
  published := by simp [Bus.publish, h.published]
  kept := by
    simp only [Bus.publish, h.kept, List.length_append, List.length_drop, List.length_singleton]
    by_cases full : stream.length < b.size
    · have all : stream.length - b.size = 0 := by omega
      have all' : stream.length + 1 - b.size = 0 := by omega
      simp [all, all']
    · rw [← List.drop_append_of_le_length (by omega), List.drop_drop]
      congr 1
      omega

theorem Keeps.publishAll (es : List ε) : (b.publishAll es).Keeps (stream ++ es) := by
  induction es generalizing b stream with
  | nil => simpa [Bus.publishAll] using h
  | cons e es ih =>
    have rest := ih (h.publish e)
    rwa [List.append_assoc, List.singleton_append] at rest

end Keeps

theorem position?_set (b : Bus ε) (s : Nat) (p : Option Nat) (r : Nat) :
    position? { b with receivers := b.receivers.set s p } r =
      if s = r ∧ r < b.receivers.length then p else b.position? r := by
  by_cases own : s = r
  · subst own
    by_cases there : s < b.receivers.length <;> simp [position?, there]
  · simp [position?, own]

theorem lt_of_position? {b : Bus ε} {r p : Nat} (h : b.position? r = some p) :
    r < b.receivers.length := by
  by_contra gone
  simp [position?, List.getElem?_eq_none (Nat.le_of_not_lt gone)] at h

theorem position?_subscribe_of_lt (b : Bus ε) {r : Nat} (there : r < b.receivers.length) :
    b.subscribe.2.position? r = b.position? r := by
  simp [position?, Bus.subscribe, List.getElem?_append_left there]

theorem position?_subscribe_new (b : Bus ε) :
    b.subscribe.2.position? b.subscribe.1 = some b.published := by
  simp [position?, Bus.subscribe]

theorem receive_of_position {b : Bus ε} {r p : Nat} (h : b.position? r = some p) :
    b.receive r =
      (some (b.next p).1, { b with receivers := b.receivers.set r (some (b.next p).2) }) := by
  rw [receive, h]

/-- What comes next at a position is what is taken of the events after it. -/
theorem next_eq_take {b : Bus ε} {stream : List ε} (keeps : b.Keeps stream) {p : Nat}
    (le : p ≤ stream.length) :
    ∃ q ≤ stream.length,
      b.next p = ((Mailbox.take ⟨b.size, b.closed, stream.drop p⟩).1, q) ∧
        (Mailbox.take ⟨b.size, b.closed, stream.drop p⟩).2 = ⟨b.size, b.closed, stream.drop q⟩ := by
  have oldest := keeps.oldest
  by_cases last : p = stream.length
  · have none_waiting : stream.drop p = [] := by simp [last]
    refine ⟨p, le, ?_, ?_⟩
    · rw [Mailbox.take_of_nil none_waiting, next, dif_pos (by rw [keeps.published]; omega)]
      rfl
    · rw [Mailbox.take_of_nil none_waiting]
  have before_end : p < stream.length := by omega
  have more : ¬ b.published ≤ p := by rw [keeps.published]; omega
  by_cases overrun : p < b.oldest
  · have lost : (Mailbox.lost ⟨b.size, b.closed, stream.drop p⟩) = b.oldest - p := by
      simp only [Mailbox.lost, List.length_drop]
      omega
    have some_lost : Mailbox.lost ⟨b.size, b.closed, stream.drop p⟩ ≠ 0 := by omega
    refine ⟨b.oldest, by omega, ?_, ?_⟩
    · rw [Mailbox.take_of_lost some_lost, lost, next, dif_neg more, dif_pos overrun]
    · rw [Mailbox.take_of_lost some_lost, lost, List.drop_drop,
        Nat.add_sub_cancel' (Nat.le_of_lt overrun)]
  · have reach : Mailbox.lost ⟨b.size, b.closed, stream.drop p⟩ = 0 := by
      simp only [Mailbox.lost, List.length_drop]
      omega
    have waiting : stream.drop p = stream[p] :: stream.drop (p + 1) :=
      List.drop_eq_getElem_cons before_end
    refine ⟨p + 1, before_end, ?_, ?_⟩
    · rw [Mailbox.take_of_cons reach waiting, next, dif_neg more, dif_neg overrun]
      have index : stream.length - b.size + (p - b.oldest) = p := by omega
      simp only [List.get_eq_getElem, keeps.kept, List.getElem_drop, index]
    · rw [Mailbox.take_of_cons reach waiting]

namespace Serves

variable {b : Bus ε} {r : Nat} {m : Mailbox ε} (h : b.Serves r m)
include h

theorem subscribe : b.subscribe.2.Serves r m := by
  obtain ⟨stream, p, keeps, le, position, rfl⟩ := h
  refine ⟨stream, p, ⟨keeps.published, keeps.kept⟩, le, ?_, rfl⟩
  rw [position?_subscribe_of_lt b (lt_of_position? position), position]

theorem publish (e : ε) : (b.publish e).Serves r (m.put [e]) := by
  obtain ⟨stream, p, keeps, le, position, rfl⟩ := h
  refine ⟨stream ++ [e], p, keeps.publish e, by simp; omega, position, ?_⟩
  simp [Mailbox.put, Bus.publish, List.drop_append_of_le_length le]

theorem publishAll (es : List ε) : (b.publishAll es).Serves r (m.put es) := by
  induction es generalizing b m with
  | nil => simpa [Bus.publishAll, Mailbox.put] using h
  | cons e es ih =>
    have rest : ((b.publish e).publishAll es).Serves r ((m.put [e]).put es) := ih (h.publish e)
    rwa [Mailbox.put, Mailbox.put, List.append_assoc] at rest

theorem close : b.close.Serves r m.close := by
  obtain ⟨stream, p, keeps, le, position, rfl⟩ := h
  exact ⟨stream, p, ⟨keeps.published, keeps.kept⟩, le, position, rfl⟩

theorem set_other {s : Nat} (other : s ≠ r) (p : Option Nat) :
    Serves { b with receivers := b.receivers.set s p } r m := by
  obtain ⟨stream, q, keeps, le, position, rfl⟩ := h
  refine ⟨stream, q, ⟨keeps.published, keeps.kept⟩, le, ?_, rfl⟩
  rw [position?_set, if_neg (by simp [other]), position]

theorem receive_own :
    (b.receive r).1 = some m.take.1 ∧ (b.receive r).2.Serves r m.take.2 := by
  obtain ⟨stream, p, keeps, le, position, rfl⟩ := h
  obtain ⟨q, le', next, taken⟩ := next_eq_take keeps le
  have there := lt_of_position? position
  rw [receive_of_position position, next, taken]
  refine ⟨rfl, stream, q, ⟨keeps.published, keeps.kept⟩, le', ?_, rfl⟩
  rw [position?_set, if_pos ⟨rfl, there⟩]

theorem receive_other {s : Nat} (other : s ≠ r) : (b.receive s).2.Serves r m := by
  unfold Bus.receive
  split
  · exact h
  · exact h.set_other other _

theorem use {u : Use ε} (stays : u ≠ .drop r) : (b.use u).Serves r (m.use r u) := by
  cases u with
  | subscribe => exact h.subscribe
  | publish e => exact h.publish e
  | publishAll es => exact h.publishAll es
  | receive s =>
    by_cases own : s = r
    · subst own
      simpa [Bus.use, Mailbox.use] using h.receive_own.2
    · simpa [Bus.use, Mailbox.use, own] using h.receive_other own
  | drop s => exact h.set_other (fun own => stays (own ▸ rfl)) none
  | close => exact h.close

/-- While a bus is used, a receiver gets what is taken out of its mailbox. -/
theorem run {us : List (Use ε)} (stays : .drop r ∉ us) :
    b.got r us = m.got r us ∧ (b.after us).Serves r (m.after r us) := by
  induction us generalizing b m with
  | nil => exact ⟨rfl, h⟩
  | cons u us ih =>
    have here : u ≠ .drop r := fun gone => stays (gone ▸ List.mem_cons_self)
    have rest := ih (h.use here) fun gone => stays (List.mem_cons_of_mem u gone)
    refine ⟨?_, rest.2⟩
    rw [got, Mailbox.got, rest.1]
    congr 1
    by_cases own : u.takesFor r = true
    · simp [own, h.receive_own.1]
    · simp [own]

end Serves

theorem drain_eq_ahead {b : Bus ε} {stream : List ε} (keeps : b.Keeps stream) {p : Nat}
    (le : p ≤ stream.length) :
    b.drain p = (Mailbox.ahead ⟨b.size, b.closed, stream.drop p⟩) ++
      [Mailbox.nothing ⟨b.size, b.closed, stream.drop p⟩] := by
  fun_induction b.drain p with
  | case1 p past =>
    obtain ⟨q, -, next, -⟩ := next_eq_take keeps le
    have none_waiting : stream.drop p = [] := by
      rw [List.drop_eq_nil_iff, ← keeps.published]
      exact past
    rw [next, Mailbox.take_of_nil none_waiting]
    simp [none_waiting, Mailbox.ahead, Mailbox.lost]
  | case2 p more ih =>
    obtain ⟨q, le', next, taken⟩ := next_eq_take keeps le
    have some_waiting : stream.drop p ≠ [] := by
      rw [Ne, List.drop_eq_nil_iff, ← keeps.published]
      exact more
    rw [next] at ih ⊢
    rw [Mailbox.ahead_eq_cons some_waiting, taken, ih le']
    rfl

/-- A logger ends exactly when the bus is closed, whatever is still waiting for it. -/
theorem Serves.log {b : Bus ε} {r : Nat} {m : Mailbox ε} (h : b.Serves r m) :
    (b.log r).1 = some b.closed := by
  obtain ⟨stream, p, keeps, le, position, rfl⟩ := h
  rw [Bus.log, position]
  simp only [drain_eq_ahead keeps le, List.getLast?_append, List.getLast?_singleton,
    Option.some_or, Mailbox.nothing]
  cases b.closed <;> rfl

theorem sizeFor_bounds {capacity : Nat} (positive : 1 ≤ capacity) :
    (sizeFor capacity).isPowerOfTwo ∧ capacity ≤ sizeFor capacity ∧
      sizeFor capacity < 2 * capacity := by
  unfold sizeFor
  split
  · exact ⟨⟨0, rfl⟩, by omega, by omega⟩
  · have nonzero : capacity - 1 ≠ 0 := by omega
    have below := Nat.log2_self_le nonzero
    have above := Nat.lt_log2_self (n := capacity - 1)
    rw [Nat.pow_succ] at above
    rw [Nat.one_shiftLeft, Nat.pow_succ]
    exact ⟨⟨(capacity - 1).log2 + 1, by rw [Nat.pow_succ]⟩, by omega, by omega⟩

theorem new_eq_ok_iff {capacity : Nat} {b₀ : Bus ε} :
    new capacity = .ok b₀ ↔ capacity ≠ 0 ∧ capacity < 0x8000000000000000 ∧
      sizeFor capacity * eventBytes < 0x8000000000000000 ∧
        ⟨sizeFor capacity, [], 0, [], false⟩ = b₀ := by
  unfold new
  split_ifs with zero large unaddressable
  · simp [zero]
  · simp [Nat.not_lt.mpr large]
  · simp [Nat.not_lt.mpr unaddressable]
  · simp [zero, Nat.not_le.mp large, Nat.not_le.mp unaddressable]

theorem keeps_of_new {capacity : Nat} {b₀ : Bus ε} (made : new capacity = .ok b₀) :
    b₀.Keeps [] ∧ b₀.size = sizeFor capacity ∧ b₀.closed = false := by
  obtain ⟨-, -, -, rfl⟩ := new_eq_ok_iff.mp made
  exact ⟨⟨rfl, by simp⟩, rfl, rfl⟩

@[simp] theorem publishAll_size (b : Bus ε) (es : List ε) : (b.publishAll es).size = b.size := by
  induction es generalizing b with
  | nil => rfl
  | cons e es ih => exact ih (b.publish e)

@[simp] theorem publishAll_closed (b : Bus ε) (es : List ε) :
    (b.publishAll es).closed = b.closed := by
  induction es generalizing b with
  | nil => rfl
  | cons e es ih => exact ih (b.publish e)

theorem receive_snd (b : Bus ε) (r : Nat) :
    ∃ receivers, (b.receive r).2 = { b with receivers } ∧
      receivers.length = b.receivers.length := by
  unfold receive
  split
  · exact ⟨b.receivers, rfl, rfl⟩
  · exact ⟨_, rfl, List.length_set⟩

@[simp] theorem size_use (b : Bus ε) (u : Use ε) : (b.use u).size = b.size := by
  cases u with
  | receive r =>
    obtain ⟨receivers, same, -⟩ := b.receive_snd r
    rw [use, same]
  | publishAll es => exact b.publishAll_size es
  | _ => rfl

theorem closed_use (b : Bus ε) (u : Use ε) :
    (b.use u).closed = true ↔ b.closed = true ∨ .close = u := by
  cases u with
  | receive r =>
    obtain ⟨receivers, same, -⟩ := b.receive_snd r
    simp [use, same]
  | publishAll es => simp [use]
  | _ => simp [use, publish, subscribe, dropReceiver, close]

theorem Keeps.use {b : Bus ε} {stream : List ε} (h : b.Keeps stream) (u : Use ε) :
    (b.use u).Keeps (stream ++ u.events) := by
  cases u with
  | publish e => exact h.publish e
  | publishAll es => exact h.publishAll es
  | receive r =>
    obtain ⟨receivers, same, -⟩ := b.receive_snd r
    simpa [Bus.use, same, Use.events] using
      (⟨h.published, h.kept⟩ : Keeps { b with receivers } stream)
  | _ => simpa [Use.events] using ⟨h.published, h.kept⟩

theorem Keeps.after {b : Bus ε} {stream : List ε} (h : b.Keeps stream) (us : List (Use ε)) :
    (b.after us).Keeps (stream ++ us.flatMap Use.events) := by
  induction us generalizing b stream with
  | nil => simpa using h
  | cons u us ih => simpa using ih (h.use u)

@[simp] theorem size_after (b : Bus ε) (us : List (Use ε)) : (b.after us).size = b.size := by
  induction us generalizing b with
  | nil => rfl
  | cons u us ih => rw [after_cons, ih, size_use]

theorem closed_after (b : Bus ε) (us : List (Use ε)) :
    (b.after us).closed = true ↔ b.closed = true ∨ .close ∈ us := by
  induction us generalizing b with
  | nil => simp
  | cons u us ih => rw [after_cons, ih, closed_use, List.mem_cons, or_assoc]

def Gone (b : Bus ε) (r : Nat) : Prop := r < b.receivers.length ∧ b.position? r = none

theorem gone_dropReceiver {b : Bus ε} {r : Nat} (there : r < b.receivers.length) :
    (b.dropReceiver r).2.Gone r :=
  ⟨by simpa [dropReceiver] using there, by simp [dropReceiver, position?_set, there]⟩

theorem receive_of_position_none {b : Bus ε} {r : Nat} (h : b.position? r = none) :
    b.receive r = (none, b) := by
  rw [receive, h]

theorem Gone.set {b : Bus ε} {r s : Nat} (h : b.Gone r) {p : Option Nat}
    (stays : s = r → p = none) : Gone { b with receivers := b.receivers.set s p } r := by
  refine ⟨by simpa using h.1, ?_⟩
  rw [position?_set]
  split
  · exact stays (by tauto)
  · exact h.2

theorem Gone.use {b : Bus ε} {r : Nat} (h : b.Gone r) (u : Use ε) : (b.use u).Gone r := by
  cases u with
  | subscribe =>
    refine ⟨?_, ?_⟩
    · simpa [Bus.use, Bus.subscribe] using Nat.lt_succ_of_lt h.1
    · rw [Bus.use, position?_subscribe_of_lt b h.1, h.2]
  | publishAll es =>
    induction es generalizing b with
    | nil => exact h
    | cons e es ih => exact ih (b := b.publish e) h
  | receive s =>
    rw [Bus.use, Bus.receive]
    split
    · exact h
    · exact h.set fun own => by simp_all [h.2]
  | drop s => exact h.set fun _ => rfl
  | _ => exact h

theorem Gone.got {b : Bus ε} {r : Nat} (h : b.Gone r) (us : List (Use ε)) : b.got r us = [] := by
  induction us generalizing b with
  | nil => rfl
  | cons u us ih => simp [Bus.got, receive_of_position_none h.2, ih (h.use u)]

def mailbox (b : Bus ε) (waiting : List ε) : Mailbox ε := ⟨b.size, b.closed, waiting⟩

/-- The account of a receiver for which `events` were published: what it got, and what of them is
still waiting for it. -/
structure Account (b : Bus ε) (r : Nat) (events : List ε) (received : List (Received ε))
    (waiting : List ε) : Prop where
  complete : ∃ covered, events = covered ++ waiting ∧ Received.Covers received covered
  /-- After an overrun all that the bus keeps, and nothing else, can still be had. -/
  retained : b.size ≤ waiting.length → b.kept = waiting.drop (waiting.length - b.size)
  /-- As long as nothing is published, whatever else is done, the receiver gets what is ahead, and
  nothing from then on. -/
  ahead : ∀ us : List (Use ε), .drop r ∉ us → (∀ u ∈ us, u.quiet = true) →
    ∀ n, us.countP (·.takesFor r) = n →
      b.got r us = ((b.mailbox waiting).ahead ++
        List.replicate n (if b.closed then Received.closed else Received.empty)).take n
  logged : (b.log r).1 = some b.closed
  gone : ∀ us, (b.dropReceiver r).2.got r us = []

theorem Serves.account {b : Bus ε} {r : Nat} {m : Mailbox ε} (h : b.Serves r m) {events : List ε}
    {received : List (Received ε)}
    (complete : ∃ covered, events = covered ++ m.waiting ∧ Received.Covers received covered) :
    b.Account r events received m.waiting := by
  have ⟨stream, p, keeps, le, position, same⟩ := h
  refine ⟨complete, fun overrun => ?_, fun us stays quiet n taken => ?_, h.log,
    (gone_dropReceiver (lt_of_position? position)).got⟩
  · subst same
    simp only [List.length_drop] at overrun ⊢
    rw [keeps.kept, List.drop_drop]
    congr 1
    omega
  · subst same taken
    rw [(h.run stays).1, Mailbox.got_quiet _ r us quiet]
    rfl

theorem Keeps.serves_new {b : Bus ε} {stream : List ε} (h : b.Keeps stream) :
    b.subscribe.2.Serves b.subscribe.1 ⟨b.size, b.closed, []⟩ := by
  refine ⟨stream, stream.length, ⟨h.published, h.kept⟩, Nat.le_refl _, ?_, by simp [Bus.subscribe]⟩
  rw [position?_subscribe_new, h.published]

/-- The bus accounts for every event. It keeps the newest of them, as many as its size says, whatever
its receivers do. All that was published since a receiver came is covered by what it got and what is
waiting for it, and other receivers make no difference to it. -/
theorem accounts_for_every_event {capacity : Nat} (positive : 1 ≤ capacity) :
    (sizeFor capacity * eventBytes < 0x8000000000000000 → ∃ b₀ : Bus ε, new capacity = .ok b₀) ∧
    ∀ b₀ : Bus ε, new capacity = .ok b₀ →
      (b₀.size.isPowerOfTwo ∧ capacity ≤ b₀.size ∧ b₀.size < 2 * capacity) ∧
      ∀ before later : List (Use ε),
        let came := b₀.after before
        let r := came.subscribe.1
        let b := came.subscribe.2.after later
        let events := (before ++ later).flatMap Use.events
        b.size = b₀.size ∧ b.kept = events.drop (events.length - b.size) ∧
          (b.closed = true ↔ .close ∈ before ++ later) ∧
          (.drop r ∉ later →
            let received := came.subscribe.2.got r later
            received = came.subscribe.2.got r (later.filter (·.concerns r)) ∧
              ∃ waiting, b.Account r (later.flatMap Use.events) received waiting) := by
  refine ⟨fun addressable => ?_, fun b₀ made => ⟨?_, fun before later => ?_⟩⟩
  · have bounds := sizeFor_bounds positive
    have small : capacity < 0x8000000000000000 := by
      unfold eventBytes at addressable
      omega
    exact ⟨_, new_eq_ok_iff.mpr ⟨by omega, small, addressable, rfl⟩⟩
  · rw [(keeps_of_new made).2.1]
    exact sizeFor_bounds positive
  obtain ⟨keeps, -, opened⟩ := keeps_of_new made
  have came := keeps.after before
  have kept : (((b₀.after before).subscribe.2).after later).Keeps
      ((before ++ later).flatMap Use.events) := by
    simpa [Use.events, Bus.use] using (came.use .subscribe).after later
  refine ⟨by simp [subscribe], kept.kept, ?_, fun stays => ?_⟩
  · simp [closed_after, subscribe, opened]
  have serves := came.serves_new
  obtain ⟨same, serves'⟩ := serves.run stays
  have stays' : .drop (b₀.after before).subscribe.1 ∉
      later.filter (·.concerns (b₀.after before).subscribe.1) := fun gone =>
    stays (List.mem_of_mem_filter gone)
  refine ⟨?_, _, serves'.account ?_⟩
  · rw [same, (serves.run stays').1, Mailbox.got_filter_concerns]
  · simpa [same] using Mailbox.covers_after ⟨_, _, []⟩ _ later

/-- A bus for three events keeps four. Of six events that are published to a receiver, the first two
are lost before it looks. -/
theorem accounts_for_every_event_on_overrun :
    ∃ b₀ : Bus Nat, new 3 = .ok b₀ ∧
      let later : List (Use Nat) :=
        [.publishAll [1, 2, 3, 4, 5, 6], .receive 1, .drop 0, .receive 1, .close]
      let came := b₀.after [.publish 0, .subscribe]
      .drop 1 ∉ later ∧ ∃ waiting, (came.subscribe.2.after later).Account 1 [1, 2, 3, 4, 5, 6]
        [.lagged 2, .event 3] waiting := by
  obtain ⟨exists_new, accounts⟩ := accounts_for_every_event (ε := Nat) (by decide : 1 ≤ 3)
  obtain ⟨b₀, made⟩ := exists_new (by decide)
  obtain ⟨-, -, -, rfl⟩ := new_eq_ok_iff.mp made
  have stays : Use.drop 1 ∉ ([.publishAll [1, 2, 3, 4, 5, 6], .receive 1, .drop 0, .receive 1,
      .close] : List (Use Nat)) := by simp
  exact ⟨_, made, stays, ((accounts _ made).2 [.publish 0, .subscribe] _).2.2.2 stays |>.2⟩

end Bus

end LearningMap
