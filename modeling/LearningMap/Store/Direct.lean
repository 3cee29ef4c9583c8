import LearningMap.Store.Columns
import LearningMap.Store.Query

/-!
# Direct access to tables

Rows are put into a table, changed and listed column by column, whatever the table. A row that is
put in names its own identifier, or takes the next one; the identifiers that the table hands out
later are above all those in it.
-/

namespace LearningMap

namespace Store

variable (ρ : Type) [Entity ρ] [Columns ρ]

/-- A store in which a table hands out only identifiers above those of its rows. -/
def raise (s : Store) : Store :=
  let kind := Entity.kind ρ
  let last := ((Entity.rows s.tables : List ρ).map Entity.id).foldl max (s.last kind)
  { s with last := fun k => if k = kind then last else s.last k }

def place (now : Timestamp) (s : Store) (cells : Cells) : Except DatabaseFault Store := do
  let kind := Entity.kind ρ
  let next := s.last kind + 1
  let given := (cells.value? "id").isSome
  let row : ρ ← readRow now (if given then cells else cells.overwrite [("id", .int next)])
  let stored : List ρ := Entity.rows s.tables
  let tables := Entity.setRows s.tables (stored ++ [row])
  match clash? stored row, dangling? tables row with
  | some key, _ => throw (.duplicate key)
  | none, some reference => throw (.dangling reference)
  | none, none =>
    let last := if given then s.last else fun k => if k = kind then next else s.last k
    pure { tables, last }

def placeAll (now : Timestamp) (s : Store) (rows : List Cells) : Except DatabaseFault Store := do
  pure ((← rows.foldlM (place ρ now) s).raise ρ)

/-- Changes columns of the row with an identifier; whether there is one. Its references have to stay
good. -/
def change (now : Timestamp) (s : Store) (id : Id) (values : Cells) :
    Except DatabaseFault (Bool × Store) := do
  let rows : List ρ := Entity.rows s.tables
  match rows.find? fun r => Entity.id r == id with
  | none => pure (false, s)
  | some r =>
    let new : ρ ← readRow now ((rowCells r).overwrite values)
    let changed := rows.map fun o => if Entity.id o == id then new else o
    let tables := Entity.setRows s.tables changed
    match dangling? tables new with
    | some reference => throw (.dangling reference)
    | none => pure (true, { s with tables })

def list (s : Store) : List Json := (byId (Entity.rows s.tables : List ρ)).map rowToJson

end Store

def Kind.withRows {α : Type} (kind : Kind)
    (f : (ρ : Type) → [Entity ρ] → [Columns ρ] → α) : α :=
  match kind with
  | .members => f Row.Member
  | .maps => f Row.Map
  | .nodes => f Row.Node
  | .rules => f Row.Rule
  | .questions => f Row.Question
  | .acceptedAnswers => f Row.AcceptedAnswer
  | .arrows => f Row.Arrow
  | .plays => f Row.Play
  | .seats => f Row.Seat
  | .progresses => f Row.ArrowProgress
  | .histories => f Row.NodeHistory
  | .answers => f Row.Answer
  | .answerFiles => f Row.AnswerFile

namespace Store

def putRows (now : Timestamp) (s : Store) (kind : Kind) (rows : List Cells) :
    Except DatabaseFault Store :=
  kind.withRows fun ρ => s.placeAll ρ now rows

def changeRow (now : Timestamp) (s : Store) (kind : Kind) (id : Id) (values : Cells) :
    Except DatabaseFault (Bool × Store) :=
  kind.withRows fun ρ => s.change ρ now id values

def listRows (s : Store) (kind : Kind) : List Json := kind.withRows fun ρ => s.list ρ

end Store

end LearningMap
