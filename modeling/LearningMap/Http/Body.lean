import LearningMap.Json.Record
import LearningMap.Service.Review

/-!
# Bodies of requests

How a submission and a review are read from the body of a request.
-/

namespace LearningMap

namespace FileReference

structure Partial where
  name : Option String := none
  file : Option String := none

def reader : Json.Reader FileReference :=
  open Json.Reader in
  record
    [field "name" text fun v (p : Partial) => { p with name := some v },
      field "file" text fun v p => { p with file := some v }]
    {} fun p => do pure ⟨← p.name, ← p.file⟩

end FileReference

/-- Reads a submission; every field may be left out, and the files only must not be null. -/
def Submission.reader : Json.Reader Submission :=
  open Json.Reader in
  record
    [field "answer" (option text) fun v (s : Submission) => { s with answer := v },
      field "files" (list FileReference.reader) fun v s => { s with files := v },
      field "map_play_member_id" (option id) fun v s => { s with seat := v }]
    {} some

namespace Review

structure Partial where
  correct : Option Bool := none
  feedback : Option String := none

/-- Reads a review; only the feedback may be left out. -/
def reader : Json.Reader Review :=
  open Json.Reader in
  record
    [field "is_correct" bool fun v (p : Partial) => { p with correct := some v },
      field "feedback" (option text) fun v p => { p with feedback := v }]
    {} fun p => do pure ⟨← p.correct, p.feedback⟩

end Review

def seatReader : Json.Reader (Option Id) :=
  open Json.Reader in
  record [field "map_play_member_id" (option id) fun v _ => v] none some

end LearningMap
