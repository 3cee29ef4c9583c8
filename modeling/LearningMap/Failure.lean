import LearningMap.Error
import LearningMap.Word

/-!
# Why a request fails

A request is refused for a cause of the domain, or the database reports a fault, or an operation on
words overflows, or something else goes wrong on the way.
-/

namespace LearningMap

inductive DatabaseFault where
  | rowNotFound
  /-- No connection was free in time. -/
  | poolTimedOut
  | poolClosed
  | protocol (reason : String)
  | columnNotFound (name : String)
  /-- The database refuses a statement: its own words, its code, and the constraint that is hurt. -/
  | rejected (words : String) (code constraint : Option String)
  deriving DecidableEq

namespace DatabaseFault

def message : DatabaseFault → String
  | rowNotFound =>
    "no rows returned by a query that expected to return at least one row"
  | poolTimedOut => "pool timed out while waiting for an open connection"
  | poolClosed => "attempted to acquire a connection on a closed pool"
  | protocol reason => s!"encountered unexpected or invalid data: {reason}"
  | columnNotFound name => s!"no column found for name: {name}"
  | rejected words _ _ => s!"error returned from database: {words}"

def duplicateCode : String := "23505"

def duplicate (constraint : String) : DatabaseFault :=
  rejected s!"duplicate key value violates unique constraint \"{constraint}\""
    (some duplicateCode) (some constraint)

def dangling (constraint : String) : DatabaseFault :=
  rejected s!"insert or update violates foreign key constraint \"{constraint}\""
    (some "23503") (some constraint)

def missingValue (column : String) : DatabaseFault :=
  rejected s!"null value in column \"{column}\" violates not-null constraint" (some "23502") none

def unknownColumn (column : String) : DatabaseFault :=
  rejected s!"column \"{column}\" does not exist" (some "42703") none

def wrongType (column : String) : DatabaseFault :=
  rejected s!"column \"{column}\" is of another type" (some "42804") none

/-- A text holds the character with code point zero, which no text column can hold. -/
def nulCharacter : DatabaseFault :=
  rejected "invalid byte sequence for encoding \"UTF8\": 0x00" (some "22021") none

end DatabaseFault

inductive Failure where
  | refused (cause : Refusal)
  | database (fault : DatabaseFault)
  | badRequest (reason : String)
  | internal (reason : String)
  | overflow (operation : Overflow)
  deriving DecidableEq

namespace Failure

def message : Failure → String
  | refused cause => cause.message
  | database fault => s!"Database error: {fault.message}"
  | badRequest reason => s!"Bad request: {reason}"
  | internal reason => s!"Internal error: {reason}"
  | overflow operation => operation.message

end Failure

end LearningMap
