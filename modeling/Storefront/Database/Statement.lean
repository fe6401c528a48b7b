/-
**Statements.**

A `Query` is the fixed part of what is sent to the database: values stand in it as numbered
placeholders.  A `Statement` is a query with the values that travel beside it, the first one for
placeholder 1.  `Query.text` is how a query is written.

* `Statement.insert` adds rows; every value of every row has a placeholder of its own, and the
  placeholders count on from row to row.

Main statements:

* `numberGroups_flatten`: the placeholders of a batch, in order, are the numbers from the first one on;
* `length_numberGroups`: there is a group for each row.
-/

import Storefront.Database.Table
import Storefront.Paging.SortOrder
import Storefront.Text.Decimal

namespace Storefront

open Storefront.Text

/-- The rows that a query is about: all of them, those with a value in a column, or those with one of
several values. -/
inductive Filter
  | all
  | equals (column : String) (placeholder : Nat)
  | among (column : String) (placeholder : Nat)
deriving DecidableEq

/-- A column to sort by; without a direction the smallest value comes first. -/
structure OrderTerm where
  column : String
  direction : Option Direction := none
deriving DecidableEq

/-- The placeholders of the number of rows wanted and the number of rows skipped. -/
structure Window where
  limit : Nat
  offset : Nat
deriving DecidableEq

/-- What is asked of the database, with placeholders for values. -/
inductive Query
  | begin
  /-- All further statements of the transaction see the same state. -/
  | snapshot
  | commit
  | rollback
  | ping
  | count (table : Table) (filter : Filter)
  | exists (table : Table) (filter : Filter)
  | select (table : Table) (filter : Filter) (order : List OrderTerm) (window : Option Window)
  | insert (table : Table) (groups : List (List Nat)) (returning : Bool)
deriving DecidableEq

/-! ### Text -/

/-- A placeholder in a query. -/
def placeholderText (number : Nat) : String := "$" ++ String.ofList (digits number)

/-- The parts of a list with a comma and a space between them. -/
def listText (parts : List String) : String := String.intercalate ", " parts

/-- The `WHERE` clause of a filter. -/
def Filter.text : Filter → String
  | .all => ""
  | .equals column placeholder => " WHERE " ++ column ++ " = " ++ placeholderText placeholder
  | .among column placeholder =>
    " WHERE " ++ column ++ " = ANY(" ++ placeholderText placeholder ++ ")"

/-- A term as it stands in an `ORDER BY` list. -/
def OrderTerm.text (term : OrderTerm) : String :=
  match term.direction with
  | none => term.column
  | some direction => term.column ++ " " ++ direction.text

/-- The clause of a list of columns to sort by. -/
def orderText : List OrderTerm → String
  | [] => ""
  | terms => " ORDER BY " ++ listText (terms.map OrderTerm.text)

/-- The `LIMIT` and `OFFSET` of a window. -/
def windowText : Option Window → String
  | none => ""
  | some window =>
    " LIMIT " ++ placeholderText window.limit ++ " OFFSET " ++ placeholderText window.offset

/-- The placeholders of one row. -/
def groupText (group : List Nat) : String := "(" ++ listText (group.map placeholderText) ++ ")"

/-- The text of a query. What the values are does not show in it, only how many there are. -/
def Query.text : Query → String
  | .begin => "BEGIN"
  | .snapshot => "SET TRANSACTION ISOLATION LEVEL REPEATABLE READ READ ONLY"
  | .commit => "COMMIT"
  | .rollback => "ROLLBACK"
  | .ping => "SELECT 1"
  | .count table filter => "SELECT COUNT(*)::BIGINT FROM " ++ table.name ++ filter.text
  | .exists table filter => "SELECT EXISTS(SELECT 1 FROM " ++ table.name ++ filter.text ++ ")"
  | .select table filter order window =>
    "SELECT " ++ listText table.columns ++ " FROM " ++ table.name ++ filter.text ++ orderText order
      ++ windowText window
  | .insert table groups returning =>
    "INSERT INTO " ++ table.name ++ " (" ++ listText table.columns ++ ") VALUES "
      ++ listText (groups.map groupText)
      ++ (if returning then " RETURNING " ++ listText table.columns else "")

/-- A query and the values for its placeholders. -/
structure Statement where
  query : Query
  values : List Cell := []
deriving DecidableEq

namespace Statement

/-- The text that is sent; the values travel beside it. -/
def text (statement : Statement) : String := statement.query.text

/-- The value for a placeholder; they count from one. -/
def value (statement : Statement) (placeholder : Nat) : Cell :=
  match placeholder with
  | 0 => .null
  | index + 1 => (statement.values[index]?).getD .null

/-! ### Adding rows -/

/-- The placeholders of rows of values, counted on from the first one. -/
def numberGroups (first : Nat) : List (List Cell) → List (List Nat)
  | [] => []
  | row :: rest => List.range' first row.length :: numberGroups (first + row.length) rest

/-- Adds rows of values, each in the order of the columns of the table. -/
def insert (table : Table) (rows : List (List Cell)) (returning : Bool) : Statement where
  query := .insert table (numberGroups 1 rows) returning
  values := rows.flatten

/-- There is a group of placeholders for each row. -/
theorem length_numberGroups (first : Nat) (rows : List (List Cell)) :
    (numberGroups first rows).length = rows.length := by
  induction rows generalizing first with
  | nil => rfl
  | cons row rest ih => simp [numberGroups, ih]

/-- The placeholders of a batch, in order, are the numbers from the first one on. -/
theorem numberGroups_flatten (first : Nat) (rows : List (List Cell)) :
    (numberGroups first rows).flatten = List.range' first rows.flatten.length := by
  induction rows generalizing first with
  | nil => rfl
  | cons row rest ih =>
    simp only [numberGroups, List.flatten_cons, ih, List.length_append]
    rw [List.range'_append_1]

end Statement

end Storefront
