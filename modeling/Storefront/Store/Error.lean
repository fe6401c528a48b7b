/-
**Errors of the stores.**

Why an operation on the stored accounts, items and orders fails.  `StoreError.ofDriver` sorts a failure of
the database: a value that is there already is a conflict, everything else stays what it is.

Main statement: `ofDriver_conflict_iff` — a conflict arises exactly from a value that is there already, and
says nothing else but the name of the constraint.
-/

import Storefront.Database.Failure
import Storefront.Rejection
import Storefront.Time.Duration

namespace Storefront

/-- Why an operation on a store fails. -/
inductive StoreError
  /-- There is nothing to be made. -/
  | nilEntity
  | notFound (entity key : String)
  | conflict (message : String)
  /-- The request is refused before anything is asked of the database. -/
  | rejected (cause : Rejection)
  /-- A statement failed while several belonged together. -/
  | transaction (cause : DriverError)
  | timeout (limit : Duration)
  | database (cause : DriverError)
deriving DecidableEq

namespace StoreError

/-- The message of an error of the store. -/
def text : StoreError → String
  | .nilEntity => "Entity can not be empty"
  | .notFound entity key => entity ++ " not found: " ++ key
  | .conflict message => "Conflict: " ++ message
  | .rejected cause => cause.text
  | .transaction cause => "Transaction rolled back: " ++ cause.text
  | .timeout limit => "Query timed out after " ++ limit.text
  | .database cause => "Database error: " ++ cause.text

/-- The messages below that of an error, outermost first. -/
def causes : StoreError → List String
  | .transaction cause | .database cause => cause.text :: cause.causes
  | _ => []

/-- Is it that something does not exist? -/
def isNotFound : StoreError → Bool
  | .notFound _ _ => true
  | _ => false

/-- The wording of a conflict with a constraint. -/
def conflictMessage (constraint : String) : String :=
  "Duplicate value violates unique constraint: " ++ constraint

/-- The error that a failure of the database is. -/
def ofDriver (cause : DriverError) : StoreError :=
  match cause.violatedUnique? with
  | some constraint => .conflict (conflictMessage constraint)
  | none => .database cause

/-- A conflict arises exactly from a value that is there already. -/
theorem ofDriver_conflict_iff {cause : DriverError} {message : String} :
    ofDriver cause = .conflict message ↔
      ∃ constraint, cause.violatedUnique? = some constraint ∧
        message = conflictMessage constraint := by
  unfold ofDriver
  cases cause.violatedUnique? with
  | none => simp
  | some constraint => simp [eq_comm]

end StoreError

end Storefront
