import LearningMap.Pattern.Expr

/-!
# Matching by marks

A text is gone through once, with marks on the sets of an expression. A set is marked when the
character just read may be the one it stands for, in a piece that is being matched. For the next
character marks move on: to the sets that may come after a marked one, and to those that a piece may
start with. A piece is matched where a marked set may be its last.

Repetitions are written out, so that each of their turns has marks of its own. What has no marks and
is not about to get any is left alone; a step goes only to the parts of the expression that are at
work, however long the text.
-/

namespace LearningMap.Pattern

open Unicode (CharSet)

/-- An expression with marks. Larger parts tell whether there are marks in them. -/
inductive Marked where
  | empty
  | chars (set : CharSet) (mark : Bool)
  | look (l : Look)
  | seq (live : Bool) (first second : Marked)
  | alt (live : Bool) (first second : Marked)
  | star (live : Bool) (body : Marked)
  deriving Inhabited

namespace Marked

def live : Marked → Bool
  | empty | look _ => false
  | chars _ mark => mark
  | seq live _ _ | alt live _ _ | star live _ => live

def both (e f : Marked) : Marked := seq (e.live || f.live) e f

def either (e f : Marked) : Marked := alt (e.live || f.live) e f

def turns (e : Marked) : Marked := star e.live e

def times (e : Marked) (n : Nat) : Marked :=
  if n = 0 then empty
  else if n = 1 then e
  else
    let half := e.times (n / 2)
    let even := both half half
    if n % 2 = 0 then even else both even e
termination_by n

def nullable (p : Place) : Marked → Bool
  | empty | star _ _ => true
  | chars _ _ => false
  | look l => l.holds p
  | seq _ e f => e.nullable p && f.nullable p
  | alt _ e f => e.nullable p || f.nullable p

/-- Whether a piece that is being matched may end at a place. -/
def ends (p : Place) : Marked → Bool
  | empty | look _ => false
  | chars _ mark => mark
  | seq live e f => live && (e.ends p && f.nullable p || f.ends p)
  | alt live e f => live && (e.ends p || f.ends p)
  | star live e => live && e.ends p

/-- The marks after one more character, which follows the place; a piece may start with it when
`enter` is given. -/
def step (p : Place) (c : Char) (enter : Bool) : Marked → Marked
  | empty => empty
  | look l => look l
  | chars set _ => chars set (enter && set.contains c)
  | seq live e f =>
    if enter || live then
      both (e.step p c enter) (f.step p c (enter && e.nullable p || e.ends p))
    else seq live e f
  | alt live e f =>
    if enter || live then either (e.step p c enter) (f.step p c enter) else alt live e f
  | star live e => if enter || live then turns (e.step p c (enter || e.ends p)) else star live e

/-- Whether a piece is matched that is being matched already, or that starts further on. -/
def search (e : Marked) (before : Option Char) : List Char → Bool
  | [] => e.ends ⟨before, none⟩ || e.nullable ⟨before, none⟩
  | c :: cs =>
    let p : Place := ⟨before, some c⟩
    e.ends p || e.nullable p || (e.step p c true).search (some c) cs

end Marked

namespace Expr

def unmarked : Expr → Marked
  | empty => .empty
  | chars set => .chars set false
  | look l => .look l
  | seq e f => .both e.unmarked f.unmarked
  | alt e f => .either e.unmarked f.unmarked
  | rep least none e => .both (e.unmarked.times least) e.unmarked.turns
  | rep least (some most) e =>
    .both (e.unmarked.times least) ((Marked.either .empty e.unmarked).times (most - least))

def search (e : Expr) (text : List Char) : Bool := e.unmarked.search none text

end Expr

end LearningMap.Pattern
