import LearningMap.Json.Record
import LearningMap.Store.Basic

/-!
# Columns

A row is written as an object with a member for each column of its table, and read from one. A
column may be left out: it takes its default value then, or none. A column without a default needs a
value unless it may be empty.
-/

namespace LearningMap

abbrev Cells := List (String × Json)

namespace Cells

def value? (cells : Cells) (column : String) : Option Json :=
  (cells.reverse.find? (·.1 == column)).map (·.2)

/-- Cells in which some columns have other values. -/
def overwrite (cells values : Cells) : Cells := cells ++ values

def typed {α : Type} (column : String) (read : Json.Reader α) (j : Json) : Except DatabaseFault α :=
  (read j.toDraft).mapError fun _ => .wrongType column

/-- The value of a column that needs one; `default` stands for a column that is left out. -/
def need {α : Type} (cells : Cells) (column : String) (read : Json.Reader α)
    (default : Option α := none) : Except DatabaseFault α :=
  match cells.value? column, default with
  | none, some a => .ok a
  | none, none => .error (.missingValue column)
  | some .null, _ => .error (.missingValue column)
  | some j, _ => typed column read j

def may {α : Type} (cells : Cells) (column : String) (read : Json.Reader α) :
    Except DatabaseFault (Option α) :=
  match cells.value? column with
  | none => .ok none
  | some j => typed column (Json.Reader.option read) j

def time : Json.Reader Timestamp := fun d => (⟨·⟩) <$> Json.Reader.text d

def stampColumns : List String := ["created_at", "updated_at"]

def stamps (cells : Cells) (now : Timestamp) : Except DatabaseFault Stamps := do
  pure ⟨← cells.need "created_at" time (some now), ← cells.need "updated_at" time (some now)⟩

end Cells

/-- A row as the cells of its columns. -/
class Columns (ρ : Type) where
  /-- All columns, but for the two times that every row has. -/
  columns : List String
  cells : ρ → Cells
  stamps : ρ → Stamps
  /-- The row of some cells; times that are left out are now. -/
  read : Timestamp → Cells → Except DatabaseFault ρ

def Timestamp.toJson (t : Timestamp) : Json := .str t.text

def rowCells {ρ : Type} [Columns ρ] (r : ρ) : Cells :=
  let s := Columns.stamps r
  Columns.cells r ++ [("created_at", s.created.toJson), ("updated_at", s.updated.toJson)]

def rowToJson {ρ : Type} [Columns ρ] (r : ρ) : Json := .obj (rowCells r)

/-- Reads a row from cells, all of which have to be of columns of the table. -/
def readRow {ρ : Type} [Columns ρ] (now : Timestamp) (cells : Cells) : Except DatabaseFault ρ :=
  match cells.find? fun c => !(Columns.columns ρ ++ Cells.stampColumns).contains c.1 with
  | some (column, _) => .error (.unknownColumn column)
  | none => Columns.read now cells

section Rows

open Json.Reader Cells

instance : Columns Row.Member where
  columns := ["id", "nickname", "email", "is_active"]
  cells r :=
    [("id", .int r.id), ("nickname", .str r.nickname), ("email", .opt .str r.email),
      ("is_active", .bool r.active)]
  stamps := (·.stamps)
  read now c := do
    pure ⟨← c.need "id" id, ← c.need "nickname" text, ← c.may "email" text,
      ← c.need "is_active" bool (some true), ← c.stamps now⟩

instance : Columns Row.Map where
  columns := ["id", "name", "is_private", "created_by", "deleted_at"]
  cells r :=
    [("id", .int r.id), ("name", .str r.name), ("is_private", .bool r.hidden),
      ("created_by", .int r.creator), ("deleted_at", .opt (·.toJson) r.deletedAt)]
  stamps := (·.stamps)
  read now c := do
    pure ⟨← c.need "id" id, ← c.need "name" text, ← c.need "is_private" bool (some false),
      ← c.need "created_by" id, ← c.may "deleted_at" Cells.time, ← c.stamps now⟩

instance : Columns Row.Node where
  columns := ["id", "map_id", "name", "title", "description", "is_active", "deleted_at"]
  cells r :=
    [("id", .int r.id), ("map_id", .int r.map), ("name", .str r.name), ("title", .str r.title),
      ("description", .str r.description), ("is_active", .bool r.active),
      ("deleted_at", .opt (·.toJson) r.deletedAt)]
  stamps := (·.stamps)
  read now c := do
    pure ⟨← c.need "id" id, ← c.need "map_id" id, ← c.need "name" text,
      ← c.need "title" text (some ""), ← c.need "description" text (some ""),
      ← c.need "is_active" bool (some true), ← c.may "deleted_at" Cells.time, ← c.stamps now⟩

instance : Columns Row.Rule where
  columns := ["id", "map_id", "node_id", "name", "deleted_at"]
  cells r :=
    [("id", .int r.id), ("map_id", .int r.map), ("node_id", .int r.node), ("name", .str r.name),
      ("deleted_at", .opt (·.toJson) r.deletedAt)]
  stamps := (·.stamps)
  read now c := do
    pure ⟨← c.need "id" id, ← c.need "map_id" id, ← c.need "node_id" id,
      ← c.need "name" text (some ""), ← c.may "deleted_at" Cells.time, ← c.stamps now⟩

instance : Columns Row.Question where
  columns := ["id", "map_id", "title", "description", "question_types", "answer_validation_type",
    "is_by_pass", "default_success_feedback", "default_failure_feedback", "deleted_at"]
  cells r :=
    [("id", .int r.id), ("map_id", .int r.map), ("title", .str r.title),
      ("description", .str r.description), ("question_types", .list .str r.types),
      ("answer_validation_type", .str r.strategy), ("is_by_pass", .bool r.bypass),
      ("default_success_feedback", .opt .str r.onSuccess),
      ("default_failure_feedback", .opt .str r.onFailure),
      ("deleted_at", .opt (·.toJson) r.deletedAt)]
  stamps := (·.stamps)
  read now c := do
    pure ⟨← c.need "id" id, ← c.need "map_id" id, ← c.need "title" text,
      ← c.need "description" text (some ""), ← c.need "question_types" (list text) (some ["text"]),
      ← c.need "answer_validation_type" text (some "text_exact"),
      ← c.need "is_by_pass" bool (some false), ← c.may "default_success_feedback" text,
      ← c.may "default_failure_feedback" text, ← c.may "deleted_at" Cells.time, ← c.stamps now⟩

instance : Columns Row.AcceptedAnswer where
  columns := ["id", "question_id", "answer", "description", "deleted_at"]
  cells r :=
    [("id", .int r.id), ("question_id", .int r.question), ("answer", .str r.answer),
      ("description", .str r.description), ("deleted_at", .opt (·.toJson) r.deletedAt)]
  stamps := (·.stamps)
  read now c := do
    pure ⟨← c.need "id" id, ← c.need "question_id" id, ← c.need "answer" text,
      ← c.need "description" text (some ""), ← c.may "deleted_at" Cells.time, ← c.stamps now⟩

instance : Columns Row.Arrow where
  columns := ["id", "map_id", "start_node_id", "node_complete_rule_id", "question_id", "deleted_at"]
  cells r :=
    [("id", .int r.id), ("map_id", .int r.map), ("start_node_id", .int r.start),
      ("node_complete_rule_id", .int r.rule), ("question_id", .opt .int r.question),
      ("deleted_at", .opt (·.toJson) r.deletedAt)]
  stamps := (·.stamps)
  read now c := do
    pure ⟨← c.need "id" id, ← c.need "map_id" id, ← c.need "start_node_id" id,
      ← c.need "node_complete_rule_id" id, ← c.may "question_id" id,
      ← c.may "deleted_at" Cells.time, ← c.stamps now⟩

instance : Columns Row.Play where
  columns := ["id", "map_id", "title", "created_by", "deleted_at"]
  cells r :=
    [("id", .int r.id), ("map_id", .int r.map), ("title", .str r.title),
      ("created_by", .int r.creator), ("deleted_at", .opt (·.toJson) r.deletedAt)]
  stamps := (·.stamps)
  read now c := do
    pure ⟨← c.need "id" id, ← c.need "map_id" id, ← c.need "title" text (some ""),
      ← c.need "created_by" id, ← c.may "deleted_at" Cells.time, ← c.stamps now⟩

instance : Columns Row.Seat where
  columns := ["id", "map_play_id", "member_id", "role", "deactivated"]
  cells r :=
    [("id", .int r.id), ("map_play_id", .int r.play), ("member_id", .int r.member),
      ("role", .str r.role), ("deactivated", .bool r.deactivated)]
  stamps := (·.stamps)
  read now c := do
    pure ⟨← c.need "id" id, ← c.need "map_play_id" id, ← c.need "member_id" id,
      ← c.need "role" text (some "participant"), ← c.need "deactivated" bool (some false),
      ← c.stamps now⟩

instance : Columns Row.ArrowProgress where
  columns := ["id", "map_id", "arrow_id", "member_id", "map_play_member_id", "is_resolved",
    "resolved_at"]
  cells r :=
    [("id", .int r.id), ("map_id", .int r.map), ("arrow_id", .int r.arrow),
      ("member_id", .int r.member), ("map_play_member_id", .opt .int r.seat),
      ("is_resolved", .bool r.resolved), ("resolved_at", .opt (·.toJson) r.resolvedAt)]
  stamps := (·.stamps)
  read now c := do
    pure ⟨← c.need "id" id, ← c.need "map_id" id, ← c.need "arrow_id" id, ← c.need "member_id" id,
      ← c.may "map_play_member_id" id, ← c.need "is_resolved" bool (some true),
      ← c.may "resolved_at" Cells.time, ← c.stamps now⟩

instance : Columns Row.NodeHistory where
  columns := ["id", "map_id", "node_id", "node_complete_rule_id", "member_id", "map_play_member_id",
    "completed_at"]
  cells r :=
    [("id", .int r.id), ("map_id", .int r.map), ("node_id", .int r.node),
      ("node_complete_rule_id", .int r.rule), ("member_id", .int r.member),
      ("map_play_member_id", .opt .int r.seat), ("completed_at", r.completedAt.toJson)]
  stamps := (·.stamps)
  read now c := do
    pure ⟨← c.need "id" id, ← c.need "map_id" id, ← c.need "node_id" id,
      ← c.need "node_complete_rule_id" id, ← c.need "member_id" id, ← c.may "map_play_member_id" id,
      ← c.need "completed_at" Cells.time (some now), ← c.stamps now⟩

instance : Columns Row.Answer where
  columns := ["id", "map_id", "question_id", "member_id", "map_play_member_id", "answer",
    "is_correct", "feedback", "reviewed_by", "reviewed_at"]
  cells r :=
    [("id", .int r.id), ("map_id", .int r.map), ("question_id", .int r.question),
      ("member_id", .int r.member), ("map_play_member_id", .opt .int r.seat),
      ("answer", .str r.answer), ("is_correct", .opt .bool r.correct),
      ("feedback", .opt .str r.feedback), ("reviewed_by", .opt .int r.reviewer),
      ("reviewed_at", .opt (·.toJson) r.reviewedAt)]
  stamps := (·.stamps)
  read now c := do
    pure ⟨← c.need "id" id, ← c.need "map_id" id, ← c.need "question_id" id,
      ← c.need "member_id" id, ← c.may "map_play_member_id" id, ← c.need "answer" text (some ""),
      ← c.may "is_correct" bool, ← c.may "feedback" text, ← c.may "reviewed_by" id,
      ← c.may "reviewed_at" Cells.time, ← c.stamps now⟩

instance : Columns Row.AnswerFile where
  columns := ["id", "user_question_answer_id", "name", "file"]
  cells r :=
    [("id", .int r.id), ("user_question_answer_id", .int r.answer), ("name", .str r.name),
      ("file", .str r.file)]
  stamps := (·.stamps)
  read now c := do
    pure ⟨← c.need "id" id, ← c.need "user_question_answer_id" id, ← c.need "name" text,
      ← c.need "file" text, ← c.stamps now⟩

end Rows

end LearningMap
