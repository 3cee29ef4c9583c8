import LearningMap.Unicode.Class

/-!
# Regular expressions

An expression matches pieces of a text. Besides characters it can ask about the place between two of
them: whether a line or the text ends there, or a word.
-/

namespace LearningMap.Pattern

open Unicode (CharSet)

/-- A place in a text: the characters before it and after it, none at the ends. -/
structure Place where
  before : Option Char
  after : Option Char
  deriving DecidableEq

inductive WordTest where
  | boundary
  | notBoundary
  | start
  | finish
  | startHalf
  | finishHalf
  deriving DecidableEq

inductive Look where
  | textStart
  | textEnd
  /-- A line starts; with `crlf` also a carriage return ends lines, but not before a line feed. -/
  | lineStart (crlf : Bool)
  | lineEnd (crlf : Bool)
  | word (test : WordTest) (unicode : Bool)
  deriving DecidableEq

namespace Look

def inWord (unicode : Bool) : Option Char → Bool
  | some c => (if unicode then Unicode.wordChar else Unicode.asciiWordChar).contains c
  | none => false

def holds (p : Place) : Look → Bool
  | textStart => p.before.isNone
  | textEnd => p.after.isNone
  | lineStart false => p.before.isNone || p.before == some '\n'
  | lineStart true =>
    p.before.isNone || p.before == some '\n' || (p.before == some '\r' && p.after != some '\n')
  | lineEnd false => p.after.isNone || p.after == some '\n'
  | lineEnd true =>
    p.after.isNone || p.after == some '\r' || (p.after == some '\n' && p.before != some '\r')
  | word test unicode =>
    let before := inWord unicode p.before
    let after := inWord unicode p.after
    match test with
    | .boundary => before != after
    | .notBoundary => before == after
    | .start => !before && after
    | .finish => before && !after
    | .startHalf => !before
    | .finishHalf => !after

end Look

inductive Expr where
  | empty
  | chars (set : CharSet)
  | look (l : Look)
  | seq (first second : Expr)
  | alt (first second : Expr)
  /-- Matches at least `least` and at most `most` pieces in a row. -/
  | rep (least : Nat) (most : Option Nat) (body : Expr)
  deriving DecidableEq, Inhabited

namespace Expr

/-- Expressions in a row, as a tree of even depth. -/
def sequence (es : List Expr) : Expr :=
  match es with
  | [] => empty
  | [e] => e
  | e :: f :: es =>
    let half := (es.length + 2) / 2
    seq (sequence ((e :: f :: es).take half)) (sequence ((e :: f :: es).drop half))
termination_by es.length
decreasing_by
  all_goals
    simp only [List.length_take, List.length_drop, List.length_cons]
    omega

def choice (es : List Expr) : Expr :=
  match es with
  | [] => empty
  | [e] => e
  | e :: f :: es =>
    let half := (es.length + 2) / 2
    alt (choice ((e :: f :: es).take half)) (choice ((e :: f :: es).drop half))
termination_by es.length
decreasing_by
  all_goals
    simp only [List.length_take, List.length_drop, List.length_cons]
    omega

end Expr

end LearningMap.Pattern
