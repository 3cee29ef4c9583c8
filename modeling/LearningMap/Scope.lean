import LearningMap.Word

/-!
# Who acts, and for whom progress counts

Progress belongs to a *scope*. Members seated in one play share everything that any of them
resolves; a member without a seat has progress of their own. A scope is read off an *actor*, which
is whatever is known of the caller and may be incomplete.
-/

namespace LearningMap

/-- What is known of a caller: the member, the seat taken, and the play the seat belongs to. -/
structure Actor where
  member : Option Id
  seat : Option Id
  play : Option Id
  deriving DecidableEq, Inhabited

/-- Whose progress counts: a member alone, or a member on a seat of a play. -/
inductive Scope where
  | solo (member : Id)
  | seated (member seat play : Id)
  deriving DecidableEq

namespace Scope

def member : Scope → Id
  | solo m => m
  | seated m _ _ => m

def seat : Scope → Option Id
  | solo _ => none
  | seated _ s _ => some s

def play : Scope → Option Id
  | solo _ => none
  | seated _ _ p => some p

/-- The key under which a scope is locked: the play itself, or the negated member. -/
def lockKey : Scope → Int
  | solo m => -m
  | seated _ _ p => p

/-- The key under which a scope is locked, as a word. The least identifier has no negative. -/
def lockWord : Scope → Except Overflow Int
  | solo m => Word.neg m
  | seated _ _ p => .ok p

def toActor (s : Scope) : Actor := ⟨some s.member, s.seat, s.play⟩

end Scope

/-- An actor has a scope when the member is known and seat and play are both known or both not. -/
def Actor.scope? : Actor → Option Scope
  | ⟨some m, some s, some p⟩ => some (.seated m s p)
  | ⟨some m, none, none⟩ => some (.solo m)
  | _ => none

@[simp] theorem Scope.scope?_toActor (s : Scope) : s.toActor.scope? = some s := by
  cases s <;> rfl

end LearningMap
