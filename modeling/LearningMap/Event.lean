import LearningMap.Scope
import LearningMap.Json.Record
import LearningMap.Timestamp

/-!
# Events

An event tells what happened on a map, who acted, and which entity it is about; the rest is a
payload of its own for each kind of event.
-/

namespace LearningMap

structure Event where
  /-- A name in parts, such as `node.completed`. -/
  name : String
  map : Id
  member : Option Id
  play : Option Id
  /-- The kind of entity that the event is about. -/
  sourceKind : Option String
  source : Option Id
  payload : Json

namespace Event

def new (name : String) (map : Id) : Event := ⟨name, map, none, none, none, none, .obj []⟩

def withActor (e : Event) (s : Scope) : Event := { e with member := some s.member, play := s.play }

def withSource (e : Event) (kind : String) (id : Id) : Event :=
  { e with sourceKind := some kind, source := some id }

def withPayload (e : Event) (payload : Json) : Event := { e with payload }

def members (e : Event) : List (String × Json) :=
  [("event_type", .str e.name), ("map_id", .int e.map), ("member_id", .opt .int e.member),
    ("map_play_id", .opt .int e.play), ("source_entity_type", .opt .str e.sourceKind),
    ("source_entity_id", .opt .int e.source), ("payload", e.payload)]

/-- An event as it is read: its name, map, payload and time have to be given. -/
structure Partial where
  name : Option String := none
  map : Option Id := none
  member : Option Id := none
  play : Option Id := none
  sourceKind : Option String := none
  source : Option Id := none
  payload : Option Json := none
  time : Option Timestamp := none

def anyValue : Json.Reader Json := fun d =>
  match d.toJson? 126 with
  | some j => .ok j
  | none => .error (Json.Reader.fault d)

def time : Json.Reader Timestamp := fun d => do
  match Timestamp.ofText? (← Json.Reader.text d) with
  | some t => .ok t
  | none => .error .mismatch

def fields : List (Json.Reader.Field Partial) :=
  open Json.Reader in
  [field "event_type" text fun v p => { p with name := some v },
    field "map_id" id fun v p => { p with map := some v },
    field "member_id" (option id) fun v p => { p with member := v },
    field "map_play_id" (option id) fun v p => { p with play := v },
    field "source_entity_type" (option text) fun v p => { p with sourceKind := v },
    field "source_entity_id" (option id) fun v p => { p with source := v },
    field "payload" anyValue fun v p => { p with payload := some v },
    field "timestamp" time fun v p => { p with time := some v }]

def reader : Json.Reader (Event × Timestamp) :=
  Json.Reader.record fields {} fun p => do
    let e : Event :=
      ⟨← p.name, ← p.map, p.member, p.play, p.sourceKind, p.source, ← p.payload⟩
    pure (e, ← p.time)

end Event

end LearningMap
