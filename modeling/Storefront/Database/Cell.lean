/-
**Cells and rows.**

A `Cell` is a value in a table or one that travels with a statement, and a `Row` gives cells by the names
of its columns.  Cells of one column are ordered by `Cell.compare`: texts as the database orders them
(`Collation`), doubles with NaN above all others and without a difference between the two zeros.
`Cell.order` adds a direction; a missing value counts as the largest one unless the direction puts it at
an end.

Main statements:

* `get_cons_self`, `get_cons_ne`: how a cell is found in a row;
* `order_refl`: a cell is level with itself in every direction.
-/

import Storefront.Number.Binary64
import Storefront.Paging.Direction
import Storefront.Time.Date
import Storefront.Time.Timestamp
import Storefront.Uuid.Basic

namespace Storefront

/-- A value of the database. -/
inductive Cell
  | null
  | truth (value : Bool)
  | integer (value : Int)
  | real (value : Binary64)
  | text (value : String)
  | uuid (value : Uuid)
  | date (value : Date)
  | instant (value : Timestamp)
  | uuids (values : List Uuid)
deriving DecidableEq

/-- How a database orders texts. Different texts may be level. Everything is said for any such order; only
runs on given inputs are played with `Collation.byCharacters`. -/
class Collation where
  /-- Which of two texts is smaller. -/
  compare : String → String → Ordering
  /-- Texts can be sorted. -/
  transCmp : Std.TransCmp compare

/-- Texts by their characters, which is the order of their bytes. -/
instance Collation.byCharacters : Collation where
  compare := Ord.compare
  transCmp := inferInstance

namespace Cell

/-- A value that may be missing. -/
def optional {α : Type} (cell : α → Cell) : Option α → Cell
  | some value => cell value
  | none => .null

/-- Is the value missing? -/
def isNull : Cell → Bool
  | .null => true
  | _ => false

/-- Which of two numbers is smaller. -/
def compareInts (first second : Int) : Ordering :=
  if first < second then .lt else if second < first then .gt else .eq

theorem compareInts_self (n : Int) : compareInts n n = .eq := by simp [compareInts]

variable [Collation]

/-- Which of two present cells of one column is smaller. -/
def compare : Cell → Cell → Ordering
  | .truth first, .truth second => compareInts first.toInt second.toInt
  | .integer first, .integer second => compareInts first second
  | .real first, .real second => compareInts first.key second.key
  | .text first, .text second => Collation.compare first second
  | .uuid first, .uuid second =>
    if first.before second then .lt else if second.before first then .gt else .eq
  | .date first, .date second => compareInts first.daysFromEpoch second.daysFromEpoch
  | .instant first, .instant second => compareInts first.nanos second.nanos
  | _, _ => .eq

/-- Which of two cells of one column comes first in a direction. -/
def order (direction : Direction) (first second : Cell) : Ordering :=
  let missingFirst : Bool := match direction.absent with
    | some .first => true
    | some .last => false
    | none => direction.way == .descending
  match first.isNull, second.isNull with
  | true, true => .eq
  | true, false => if missingFirst then .lt else .gt
  | false, true => if missingFirst then .gt else .lt
  | false, false =>
    match direction.way with
    | .ascending => compare first second
    | .descending => compare second first

theorem compare_self (cell : Cell) : compare cell cell = .eq := by
  cases cell with
  | text value =>
    have sorts : Std.TransCmp Collation.compare := Collation.transCmp
    have level : Collation.compare value value = .eq := Std.ReflCmp.compare_self
    exact level
  | uuid value =>
    have level : value.before value = false := decide_eq_false (List.lt_irrefl _)
    simp [compare, level]
  | _ => simp [compare, compareInts_self]

theorem order_refl (direction : Direction) (cell : Cell) : order direction cell cell = .eq := by
  unfold order
  cases cell.isNull
  · cases direction.way <;> exact compare_self cell
  · rfl

end Cell

/-- Cells by the names of their columns. -/
abbrev Row := List (String × Cell)

namespace Row

/-- The cell of a column; a column that is absent has no value. -/
def get (row : Row) (column : String) : Cell := (row.lookup column).getD .null

@[simp]
theorem get_cons_self (column : String) (cell : Cell) (rest : Row) :
    get ((column, cell) :: rest) column = cell := by
  simp [get]

theorem get_cons_ne {name column : String} (other : column ≠ name) (cell : Cell) (rest : Row) :
    get ((name, cell) :: rest) column = get rest column := by
  simp [get, List.lookup_cons, beq_false_of_ne other]

end Row

end Storefront
