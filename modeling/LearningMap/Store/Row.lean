import LearningMap.Id
import LearningMap.Timestamp

/-!
# Rows

What is stored, one structure for each table. Maps, nodes, rules, questions, arrows and plays are
never taken away: a row with a time of deletion is no longer live. Rows of progress are only added.
-/

namespace LearningMap

structure Stamps where
  created : Timestamp
  updated : Timestamp
  deriving DecidableEq, Inhabited

namespace Row

structure Member where
  id : Id
  nickname : String
  email : Option String
  active : Bool
  stamps : Stamps
  deriving DecidableEq

structure Map where
  id : Id
  name : String
  hidden : Bool
  creator : Id
  deletedAt : Option Timestamp
  stamps : Stamps
  deriving DecidableEq

/-- A node of a map. Its status is never stored. -/
structure Node where
  id : Id
  map : Id
  name : String
  title : String
  description : String
  active : Bool
  deletedAt : Option Timestamp
  stamps : Stamps
  deriving DecidableEq

structure Rule where
  id : Id
  map : Id
  node : Id
  name : String
  deletedAt : Option Timestamp
  stamps : Stamps
  deriving DecidableEq

structure Question where
  id : Id
  map : Id
  title : String
  description : String
  types : List String
  strategy : String
  bypass : Bool
  onSuccess : Option String
  onFailure : Option String
  deletedAt : Option Timestamp
  stamps : Stamps
  deriving DecidableEq

structure AcceptedAnswer where
  id : Id
  question : Id
  answer : String
  description : String
  deletedAt : Option Timestamp
  stamps : Stamps
  deriving DecidableEq

structure Arrow where
  id : Id
  map : Id
  start : Id
  rule : Id
  question : Option Id
  deletedAt : Option Timestamp
  stamps : Stamps
  deriving DecidableEq

/-- A session in which several members play a map together. -/
structure Play where
  id : Id
  map : Id
  title : String
  creator : Id
  deletedAt : Option Timestamp
  stamps : Stamps
  deriving DecidableEq

structure Seat where
  id : Id
  play : Id
  member : Id
  role : String
  deactivated : Bool
  stamps : Stamps
  deriving DecidableEq

/-- A member, perhaps on a seat, resolved an arrow. -/
structure ArrowProgress where
  id : Id
  map : Id
  arrow : Id
  member : Id
  seat : Option Id
  resolved : Bool
  resolvedAt : Option Timestamp
  stamps : Stamps
  deriving DecidableEq

/-- A member, perhaps on a seat, completed a node through a rule. -/
structure NodeHistory where
  id : Id
  map : Id
  node : Id
  rule : Id
  member : Id
  seat : Option Id
  completedAt : Timestamp
  stamps : Stamps
  deriving DecidableEq

structure Answer where
  id : Id
  map : Id
  question : Id
  member : Id
  seat : Option Id
  answer : String
  /-- None while the answer waits for a review. -/
  correct : Option Bool
  feedback : Option String
  reviewer : Option Id
  reviewedAt : Option Timestamp
  stamps : Stamps
  deriving DecidableEq

structure AnswerFile where
  id : Id
  answer : Id
  name : String
  file : String
  stamps : Stamps
  deriving DecidableEq

end Row

end LearningMap
