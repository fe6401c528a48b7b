/-
**Failures of the database.**

A `Report` is what the server says when it refuses a statement.  A `DriverError` is any way in which a
statement, or the connection for it, can fail: a report, a pool that gives no connection, a connection that
is lost, or an answer that is not what was expected.

* `DriverError.text` is the wording, `DriverError.causes` the wordings of what lies behind it;
* `DriverError.violatedUnique?` says whether a value was there already, and names the constraint.
-/

namespace Storefront

/-- What the server says when it refuses a statement. -/
structure Report where
  code : Option String
  constraint : Option String := none
  message : String
deriving DecidableEq

namespace Report

/-- The code for a value that is there already. -/
def uniqueViolation : String := "23505"

/-- A value is there already. -/
def duplicate (constraint : String) : Report where
  code := some uniqueViolation
  constraint := some constraint
  message := "duplicate key value violates unique constraint \"" ++ constraint ++ "\""

/-- A value is outside its bounds. -/
def outOfBounds (table constraint : String) : Report where
  code := some "23514"
  constraint := some constraint
  message := "new row for relation \"" ++ table ++ "\" violates check constraint \""
    ++ constraint ++ "\""

/-- A row refers to one that does not exist. -/
def dangling (table constraint : String) : Report where
  code := some "23503"
  constraint := some constraint
  message := "insert or update on table \"" ++ table ++ "\" violates foreign key constraint \""
    ++ constraint ++ "\""

/-- A transaction in which a statement has failed takes no further ones. -/
def aborted : Report where
  code := some "25P02"
  message := "current transaction is aborted, commands ignored until end of transaction block"

/-- A text holds a character that the server cannot store. -/
def invalidText : Report where
  code := some "22021"
  message := "invalid byte sequence for encoding \"UTF8\": 0x00"

/-- A date is too early. -/
def dateOutOfRange : Report where
  code := some "22008"
  message := "date out of range"

end Report

/-- How a statement can fail. -/
inductive DriverError
  | rowNotFound
  | poolTimedOut
  | poolClosed
  | workerCrashed
  | lostConnection (message : String)
  | unreadableColumn (column message : String)
  | protocol (message : String)
  | columnNotFound (column : String)
  | refused (report : Report)
deriving DecidableEq

namespace DriverError

/-- The message of an error of the database. -/
def text : DriverError → String
  | .rowNotFound => "no rows returned by a query that expected to return at least one row"
  | .poolTimedOut => "pool timed out while waiting for an open connection"
  | .poolClosed => "attempted to acquire a connection on a closed pool"
  | .workerCrashed => "attempted to communicate with a crashed background worker"
  | .lostConnection message => "error communicating with database: " ++ message
  | .unreadableColumn column message =>
    "error occurred while decoding column \"" ++ column ++ "\": " ++ message
  | .protocol message => "encountered unexpected or invalid data: " ++ message
  | .columnNotFound column => "no column found for name: " ++ column
  | .refused report => "error returned from database: " ++ report.message

/-- The messages below that of an error, outermost first. -/
def causes : DriverError → List String
  | .lostConnection message => [message]
  | .unreadableColumn _ message => [message]
  | .refused report => [report.message]
  | _ => []

/-- The constraint that a value violates by being there already, if that is what is wrong. -/
def violatedUnique? : DriverError → Option String
  | .refused report =>
    if report.code = some Report.uniqueViolation then some (report.constraint.getD "unknown") else none
  | _ => none

end DriverError

end Storefront
