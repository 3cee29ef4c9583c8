import LearningMap.Failure
import LearningMap.Store.Row

/-!
# The store

The store holds thirteen tables and, for each, the last identifier that it handed out. An operation
that fails leaves all rows as they were, but identifiers that it took are not handed out again.

An operation is a function of the store: `Action`. `Action.atomic` makes a sequence of operations
undo its rows when it fails.
-/

namespace LearningMap

inductive Kind where
  | members
  | maps
  | nodes
  | rules
  | questions
  | acceptedAnswers
  | arrows
  | plays
  | seats
  | progresses
  | histories
  | answers
  | answerFiles
  deriving DecidableEq

namespace Kind

def all : List Kind :=
  [members, maps, nodes, rules, questions, acceptedAnswers, arrows, plays, seats, progresses,
    histories, answers, answerFiles]

def name : Kind → String
  | members => "members"
  | maps => "maps"
  | nodes => "nodes"
  | rules => "node_complete_rules"
  | questions => "questions"
  | acceptedAnswers => "question_answers"
  | arrows => "arrows"
  | plays => "map_plays"
  | seats => "map_play_members"
  | progresses => "arrow_progresses"
  | histories => "node_completed_histories"
  | answers => "user_question_answers"
  | answerFiles => "user_question_answer_files"

def ofName? (s : String) : Option Kind := all.find? (·.name == s)

end Kind

/-- The rows of all tables, each in the order in which they were stored. -/
structure Tables where
  members : List Row.Member := []
  maps : List Row.Map := []
  nodes : List Row.Node := []
  rules : List Row.Rule := []
  questions : List Row.Question := []
  acceptedAnswers : List Row.AcceptedAnswer := []
  arrows : List Row.Arrow := []
  plays : List Row.Play := []
  seats : List Row.Seat := []
  progresses : List Row.ArrowProgress := []
  histories : List Row.NodeHistory := []
  answers : List Row.Answer := []
  answerFiles : List Row.AnswerFile := []
  deriving DecidableEq

namespace Tables

def ids (t : Tables) : Kind → List Id
  | .members => t.members.map (·.id)
  | .maps => t.maps.map (·.id)
  | .nodes => t.nodes.map (·.id)
  | .rules => t.rules.map (·.id)
  | .questions => t.questions.map (·.id)
  | .acceptedAnswers => t.acceptedAnswers.map (·.id)
  | .arrows => t.arrows.map (·.id)
  | .plays => t.plays.map (·.id)
  | .seats => t.seats.map (·.id)
  | .progresses => t.progresses.map (·.id)
  | .histories => t.histories.map (·.id)
  | .answers => t.answers.map (·.id)
  | .answerFiles => t.answerFiles.map (·.id)

end Tables

/-- The tables, and the last identifier that each handed out. -/
structure Store where
  tables : Tables := {}
  last : Kind → Id := fun _ => 0

structure Reference where
  column : String
  target : Kind
  id : Id
  deriving DecidableEq

structure UniqueKey where
  name : String
  values : List Id
  deriving DecidableEq

class Entity (ρ : Type) where
  kind : Kind
  id : ρ → Id
  withId : ρ → Id → ρ
  rows : Tables → List ρ
  setRows : Tables → List ρ → Tables
  /-- What a row refers to, in the order of its columns. -/
  references : ρ → List Reference
  keys : ρ → List UniqueKey

/-- The key of a seat that may be missing; no seat counts as seat zero. -/
def seatKey (seat : Option Id) : Id := seat.getD 0

section Entities

open Entity

instance : Entity Row.Member where
  kind := .members
  id := (·.id)
  withId r id := { r with id }
  rows := (·.members)
  setRows t members := { t with members }
  references _ := []
  keys _ := []

instance : Entity Row.Map where
  kind := .maps
  id := (·.id)
  withId r id := { r with id }
  rows := (·.maps)
  setRows t maps := { t with maps }
  references r := [⟨"created_by", .members, r.creator⟩]
  keys _ := []

instance : Entity Row.Node where
  kind := .nodes
  id := (·.id)
  withId r id := { r with id }
  rows := (·.nodes)
  setRows t nodes := { t with nodes }
  references r := [⟨"map_id", .maps, r.map⟩]
  keys _ := []

instance : Entity Row.Rule where
  kind := .rules
  id := (·.id)
  withId r id := { r with id }
  rows := (·.rules)
  setRows t rules := { t with rules }
  references r := [⟨"map_id", .maps, r.map⟩, ⟨"node_id", .nodes, r.node⟩]
  keys _ := []

instance : Entity Row.Question where
  kind := .questions
  id := (·.id)
  withId r id := { r with id }
  rows := (·.questions)
  setRows t questions := { t with questions }
  references r := [⟨"map_id", .maps, r.map⟩]
  keys _ := []

instance : Entity Row.AcceptedAnswer where
  kind := .acceptedAnswers
  id := (·.id)
  withId r id := { r with id }
  rows := (·.acceptedAnswers)
  setRows t acceptedAnswers := { t with acceptedAnswers }
  references r := [⟨"question_id", .questions, r.question⟩]
  keys _ := []

instance : Entity Row.Arrow where
  kind := .arrows
  id := (·.id)
  withId r id := { r with id }
  rows := (·.arrows)
  setRows t arrows := { t with arrows }
  references r :=
    [⟨"map_id", .maps, r.map⟩, ⟨"start_node_id", .nodes, r.start⟩,
      ⟨"node_complete_rule_id", .rules, r.rule⟩] ++
    (r.question.map fun q => ⟨"question_id", .questions, q⟩).toList
  keys _ := []

instance : Entity Row.Play where
  kind := .plays
  id := (·.id)
  withId r id := { r with id }
  rows := (·.plays)
  setRows t plays := { t with plays }
  references r := [⟨"map_id", .maps, r.map⟩, ⟨"created_by", .members, r.creator⟩]
  keys _ := []

instance : Entity Row.Seat where
  kind := .seats
  id := (·.id)
  withId r id := { r with id }
  rows := (·.seats)
  setRows t seats := { t with seats }
  references r := [⟨"map_play_id", .plays, r.play⟩, ⟨"member_id", .members, r.member⟩]
  keys r := [⟨"uq_map_play_members_play_member", [r.play, r.member]⟩]

instance : Entity Row.ArrowProgress where
  kind := .progresses
  id := (·.id)
  withId r id := { r with id }
  rows := (·.progresses)
  setRows t progresses := { t with progresses }
  references r :=
    [⟨"map_id", .maps, r.map⟩, ⟨"arrow_id", .arrows, r.arrow⟩, ⟨"member_id", .members, r.member⟩] ++
    (r.seat.map fun s => ⟨"map_play_member_id", .seats, s⟩).toList
  keys r := [⟨"uq_arrow_progresses_arrow_actor", [r.arrow, r.member, seatKey r.seat]⟩]

instance : Entity Row.NodeHistory where
  kind := .histories
  id := (·.id)
  withId r id := { r with id }
  rows := (·.histories)
  setRows t histories := { t with histories }
  references r :=
    [⟨"map_id", .maps, r.map⟩, ⟨"node_id", .nodes, r.node⟩,
      ⟨"node_complete_rule_id", .rules, r.rule⟩, ⟨"member_id", .members, r.member⟩] ++
    (r.seat.map fun s => ⟨"map_play_member_id", .seats, s⟩).toList
  keys r :=
    [⟨"uq_node_completed_histories_rule_actor", [r.node, r.rule, r.member, seatKey r.seat]⟩]

instance : Entity Row.Answer where
  kind := .answers
  id := (·.id)
  withId r id := { r with id }
  rows := (·.answers)
  setRows t answers := { t with answers }
  references r :=
    [⟨"map_id", .maps, r.map⟩, ⟨"question_id", .questions, r.question⟩,
      ⟨"member_id", .members, r.member⟩] ++
    (r.seat.map fun s => ⟨"map_play_member_id", .seats, s⟩).toList ++
    (r.reviewer.map fun m => ⟨"reviewed_by", .members, m⟩).toList
  keys _ := []

instance : Entity Row.AnswerFile where
  kind := .answerFiles
  id := (·.id)
  withId r id := { r with id }
  rows := (·.answerFiles)
  setRows t answerFiles := { t with answerFiles }
  references r := [⟨"user_question_answer_id", .answers, r.answer⟩]
  keys _ := []

end Entities

variable {ρ : Type} [Entity ρ]

/-- The name of the key that a row shares with another one, if it shares any. Its identifier comes
first. -/
def clash? (rows : List ρ) (r : ρ) : Option String :=
  if rows.any fun o => Entity.id o == Entity.id r then some s!"{(Entity.kind ρ).name}_pkey"
  else
    ((Entity.keys r).find? fun k => rows.any fun o => k ∈ Entity.keys o).map (·.name)

def dangling? (t : Tables) (r : ρ) : Option String :=
  ((Entity.references r).find? fun ref => ref.id ∉ t.ids ref.target).map fun ref =>
    s!"{(Entity.kind ρ).name}_{ref.column}_fkey"

inductive OnClash where
  | fail
  | skip
  deriving DecidableEq

/-- Gives new rows their identifiers, from the one after `last` on, and adds them to the rows of a
table: the added rows, and the last identifier taken. -/
def addRows (onClash : OnClash) (stored : List ρ) (last : Id) :
    List ρ → Except DatabaseFault (List ρ) × Id
  | [] => (.ok [], last)
  | r :: rs =>
    let r := Entity.withId r (last + 1)
    match clash? stored r, onClash with
    | some key, .fail => (.error (.duplicate key), last + 1)
    | some _, .skip => addRows onClash stored (last + 1) rs
    | none, _ =>
      let (added, last) := addRows onClash (stored ++ [r]) (last + 1) rs
      (added.map (r :: ·), last)

/-- An operation on the store. It may fail, and may have changed the store even so. -/
abbrev Action := ExceptT Failure (StateM Store)

namespace Action

def refuse {α : Type} (cause : Refusal) : Action α := throw (.refused cause)

def reject {α : Type} (fault : DatabaseFault) : Action α := throw (.database fault)

def query {α : Type} (f : Tables → α) : Action α := do pure (f (← get).tables)

def orRefuse {α : Type} (cause : Refusal) : Option α → Action α
  | some a => pure a
  | none => refuse cause

/-- An operation that leaves all rows as they were when it fails. -/
def atomic {α : Type} (act : Action α) : Action α := fun s =>
  match act s with
  | (.ok a, s') => (.ok a, s')
  | (.error e, s') => (.error e, { s' with tables := s.tables })

/-- No text that is to be stored holds the character with code point zero. -/
def checkTexts (texts : List String) : Action Unit :=
  if texts.any fun s => s.toList.contains '\x00' then reject .nulCharacter else pure ()

/-- Adds rows under new identifiers and gives those that were added, in order. Keys are checked row
by row, references once all rows are there. -/
def insert (onClash : OnClash) (rows : List ρ) : Action (List ρ) := fun s =>
  let kind := Entity.kind ρ
  let (added, last) := addRows onClash (Entity.rows s.tables) (s.last kind) rows
  let burnt := { s with last := fun k => if k = kind then last else s.last k }
  match added with
  | .error fault => (.error (.database fault), burnt)
  | .ok added =>
    let tables := Entity.setRows s.tables (Entity.rows s.tables ++ added)
    match added.findSome? (dangling? tables) with
    | some reference => (.error (.database (.dangling reference)), burnt)
    | none => (.ok added, { burnt with tables })

def insertOne (row : ρ) : Action ρ := do
  match ← insert .fail [row] with
  | added :: _ => pure added
  | [] => reject .rowNotFound

/-- Changes the rows of a table that have an identifier, and gives the first of them. -/
def update (id : Id) (change : ρ → ρ) : Action (Option ρ) := fun s =>
  let rows : List ρ := Entity.rows s.tables
  match rows.find? fun r => Entity.id r == id with
  | none => (.ok none, s)
  | some r =>
    let changed := rows.map fun r => if Entity.id r == id then change r else r
    let tables := Entity.setRows s.tables changed
    match dangling? tables (change r) with
    | some reference => (.error (.database (.dangling reference)), s)
    | none => (.ok (some (change r)), { s with tables })

end Action

end LearningMap
