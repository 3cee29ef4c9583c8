import LearningMap.Id
import LearningMap.Json.Draft

/-!
# Reading records

A record is read from an object, whose unknown members are passed over, or from the list of its
fields in order. Reading goes through the text from its start and stops at the first thing that is
wrong: a slip of the grammar, or a value of another shape. A field that an object lacks is noticed
at its end.
-/

namespace LearningMap.Json

inductive Fault where
  | malformed
  | mismatch
  deriving DecidableEq

def toDraft : Json → Draft
  | .null => .null
  | .bool b => .bool b
  | .num n => .num (.ok n)
  | .str s => .str (.ok s)
  | .arr items => .arr (drafts items) true
  | .obj members => .obj (memberDrafts members) true
where
  drafts : List Json → List Draft
    | [] => []
    | j :: js => j.toDraft :: drafts js
  memberDrafts : List (String × Json) → List (Option String × Draft)
    | [] => []
    | (k, j) :: ms => (some k, j.toDraft) :: memberDrafts ms

abbrev Reader (α : Type) := Draft → Except Fault α

namespace Reader

def fault : Draft → Fault
  | .broken => .malformed
  | .num (.error _) => .malformed
  | .str (.error _) => .malformed
  | _ => .mismatch

def text : Reader String
  | .str (.ok s) => .ok s
  | d => .error (fault d)

def bool : Reader Bool
  | .bool b => .ok b
  | d => .error (fault d)

def id : Reader Id
  | .num (.ok (.whole n)) => if Id.fits n then .ok n else .error .mismatch
  | d => .error (fault d)

def option {α : Type} (read : Reader α) : Reader (Option α)
  | .null => .ok none
  | d => some <$> read d

def list {α : Type} (read : Reader α) : Reader (List α)
  | .arr items closed => do
    let values ← items.mapM read
    if closed then .ok values else .error .malformed
  | d => .error (fault d)

/-- A field of a record: how its value changes what is read so far. -/
structure Field (σ : Type) where
  name : String
  read : Draft → σ → Except Fault σ

def field {σ α : Type} (name : String) (read : Reader α) (put : α → σ → σ) : Field σ :=
  ⟨name, fun d s => (put · s) <$> read d⟩

/-- Reads the members of an object. A field must not occur twice. -/
def members {σ : Type} (fields : List (Field σ)) (seen : List String) (s : σ) :
    List (Option String × Draft) → Except Fault σ
  | [] => .ok s
  | (none, _) :: _ => .error .malformed
  | (some name, value) :: rest =>
    match fields.find? (·.name == name) with
    | none => members fields seen s rest
    | some f =>
      if seen.contains name then .error .mismatch
      else do members fields (name :: seen) (← f.read value s) rest

/-- Reads the fields of a list in order; whether there are fewer or more of them is left open. -/
def items {σ : Type} (s : σ) : List (Field σ) → List Draft → Except Fault σ
  | f :: fields, d :: ds => do items (← f.read d s) fields ds
  | _, _ => .ok s

/-- A record. `finish` tells whether an object had the members that it needs. -/
def record {σ α : Type} (fields : List (Field σ)) (start : σ) (finish : σ → Option α) : Reader α
  | .obj ms closed => do
    let s ← members fields [] start ms
    if closed then (finish s).elim (.error .mismatch) .ok else .error .malformed
  | .arr ds closed => do
    let s ← items start fields ds
    if !closed || fields.length < ds.length then .error .malformed
    else if ds.length < fields.length then .error .mismatch
    else (finish s).elim (.error .mismatch) .ok
  | d => .error (fault d)

/-- Reads all of some characters, among bytes that belong to none. -/
def ofSymbols {α : Type} (read : Reader α) (symbols : List (Option Char)) : Except Fault α := do
  let (draft, complete) := Draft.ofSymbols symbols
  let value ← read draft
  if complete then .ok value else .error .malformed

def ofText {α : Type} (read : Reader α) (text : String) : Except Fault α :=
  ofSymbols read (text.toList.map some)

end Reader

end LearningMap.Json
