/-!
# The event bus

Every event is published to all receivers that are there at the time. A receiver stands at a
position in the stream of all events. The bus keeps only the newest events; a receiver that falls
behind them is told how many it lost and goes on with the oldest one kept. Publishing never waits
for a receiver.
-/

namespace LearningMap

inductive Received (ε : Type) where
  | event (e : ε)
  | empty
  /-- As many events as told were lost. -/
  | lagged (lost : Nat)
  | closed
  deriving DecidableEq

inductive BusFault where
  | noCapacity
  | tooLarge
  | unaddressable
  deriving DecidableEq

def BusFault.message : BusFault → String
  | noCapacity => "broadcast channel capacity cannot be zero"
  | tooLarge => "broadcast channel capacity exceeded \x60usize::MAX / 2\x60"
  | unaddressable => "capacity overflow"

/-- A bus: the events it keeps, the oldest first, and how many were published in all. -/
structure Bus (ε : Type) where
  size : Nat
  kept : List ε
  published : Nat
  /-- The positions of the receivers; none for one that is gone. -/
  receivers : List (Option Nat)
  closed : Bool

namespace Bus

variable {ε : Type}

def defaultCapacity : Nat := 1024

def eventBytes : Nat := 176

/-- The least power of two that is at least the capacity. -/
def sizeFor (capacity : Nat) : Nat := if capacity ≤ 1 then 1 else 1 <<< ((capacity - 1).log2 + 1)

def new (capacity : Nat) : Except BusFault (Bus ε) :=
  if capacity = 0 then .error .noCapacity
  else if 0x8000000000000000 ≤ capacity then .error .tooLarge
  else if 0x8000000000000000 ≤ sizeFor capacity * eventBytes then .error .unaddressable
  else .ok ⟨sizeFor capacity, [], 0, [], false⟩

def oldest (b : Bus ε) : Nat := b.published - b.kept.length

def publish (b : Bus ε) (e : ε) : Bus ε :=
  let kept := b.kept ++ [e]
  { b with kept := kept.drop (kept.length - b.size), published := b.published + 1 }

def publishAll (b : Bus ε) (es : List ε) : Bus ε := es.foldl publish b

/-- A new receiver, which gets later events only, and its number. -/
def subscribe (b : Bus ε) : Nat × Bus ε :=
  (b.receivers.length, { b with receivers := b.receivers ++ [some b.published] })

def receiverCount (b : Bus ε) : Nat := b.receivers.countP (·.isSome)

def position? (b : Bus ε) (receiver : Nat) : Option Nat := b.receivers[receiver]?.join

def next (b : Bus ε) (p : Nat) : Received ε × Nat :=
  if _h : b.published ≤ p then (if b.closed then .closed else .empty, p)
  else if h' : p < b.oldest then (.lagged (b.oldest - p), b.oldest)
  else (.event (b.kept.get ⟨p - b.oldest, by simp only [oldest] at *; omega⟩), p + 1)

theorem next_lt (b : Bus ε) {p : Nat} (h : p < b.published) :
    p < (b.next p).2 ∧ (b.next p).2 ≤ b.published := by
  rw [next, dif_neg (by omega)]
  by_cases h' : p < b.oldest
  · rw [dif_pos h']
    simp only [oldest] at *
    omega
  · rw [dif_neg h']
    simp only
    omega

/-- A receiver takes what it gets next; none when it is not there. -/
def receive (b : Bus ε) (receiver : Nat) : Option (Received ε) × Bus ε :=
  match b.position? receiver with
  | none => (none, b)
  | some p =>
    let (received, p) := b.next p
    (some received, { b with receivers := b.receivers.set receiver (some p) })

def dropReceiver (b : Bus ε) (receiver : Nat) : Bool × Bus ε :=
  ((b.position? receiver).isSome, { b with receivers := b.receivers.set receiver none })

def close (b : Bus ε) : Bus ε := { b with closed := true }

/-- Everything that is got from a position on, up to the first time that there is no event. -/
def drain (b : Bus ε) (p : Nat) : List (Received ε) :=
  if _h : b.published ≤ p then [(b.next p).1]
  else (b.next p).1 :: b.drain (b.next p).2
termination_by b.published - p
decreasing_by
  have := b.next_lt (Nat.lt_of_not_le ‹_›)
  omega

/-- A logger takes a receiver over, writes down all it gets, and ends when the bus is closed:
whether it has ended, or none when the receiver is not there. -/
def log (b : Bus ε) (receiver : Nat) : Option Bool × Bus ε :=
  match b.position? receiver with
  | none => (none, b)
  | some p =>
    (some (match (b.drain p).getLast? with | some .closed => true | _ => false),
      (b.dropReceiver receiver).2)

end Bus

end LearningMap
