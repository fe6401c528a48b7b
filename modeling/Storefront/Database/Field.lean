/-
**Reading rows.**

Values of the program are read from the cells of a row by the name of their column.  A column that the
row does not have, and a cell of another kind, are failures of the answer.
-/

import Storefront.Database.Failure
import Storefront.Database.Cell

namespace Storefront.Row

variable {α : Type}

/-- Reads a column with a function that says which cells are of the right kind. -/
def read (row : Row) (column : String) (value? : Cell → Option α) : Except DriverError α :=
  match row.lookup column with
  | none => .error (.columnNotFound column)
  | some cell =>
    match value? cell with
    | some value => .ok value
    | none => .error (.unreadableColumn column "unexpected value")

/-- The identifier that a cell holds. -/
def uuid? : Cell → Option Uuid
  | .uuid value => some value
  | _ => none

/-- The text that a cell holds. -/
def text? : Cell → Option String
  | .text value => some value
  | _ => none

/-- The integer that a cell holds. -/
def integer? : Cell → Option Int
  | .integer value => some value
  | _ => none

/-- The double that a cell holds. -/
def real? : Cell → Option Binary64
  | .real value => some value
  | _ => none

/-- The date that a cell holds. -/
def date? : Cell → Option Date
  | .date value => some value
  | _ => none

/-- The moment that a cell holds. -/
def instant? : Cell → Option Timestamp
  | .instant value => some value
  | _ => none

/-- The truth value that a cell holds. -/
def truth? : Cell → Option Bool
  | .truth value => some value
  | _ => none

/-- A cell that may have no value. -/
def optional? (value? : Cell → Option α) : Cell → Option (Option α)
  | .null => some none
  | cell => (value? cell).map some

/-- Reads the only column of the first row. -/
def readFirst (rows : List Row) (value? : Cell → Option α) : Except DriverError α :=
  match rows with
  | [] => .error .rowNotFound
  | [] :: _ => .error (.columnNotFound "0")
  | ((column, cell) :: _) :: _ =>
    match value? cell with
    | some value => .ok value
    | none => .error (.unreadableColumn column "unexpected value")

end Storefront.Row
