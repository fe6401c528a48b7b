/-
**The database server.**

What the server does with a statement.  Outside a transaction a change takes effect at once; inside one
it is kept with the transaction and joins the tables when that is committed.  A transaction that has begun
with `snapshot` sees the state that its first reading statement saw, and every transaction sees what it
has written itself.  After a failure a transaction takes nothing but its end, and then ends without
effect.

* `select` finds rows: those of the filter, sorted, in the window;
* `checkRows` says what forbids new rows: bounds, values that are there already, rows that do not
  exist;
* `execute` is one statement on the tables and the transaction of a connection.

Main statements:

* `execute_tables`: a statement leaves the tables as they are or adds rows behind theirs;
* `execute_tables_of_not_write`: only a batch of rows and a commit add any.
-/

import Storefront.Database.Failure
import Storefront.Database.Statement

namespace Storefront

variable [Collation]

/-! ### Finding rows -/

/-- The rows that a filter lets through. -/
def Filter.holds (filter : Filter) (value : Nat → Cell) (row : Row) : Bool :=
  match filter with
  | .all => true
  | .equals column placeholder => row.get column == value placeholder && !(row.get column).isNull
  | .among column placeholder =>
    match row.get column, value placeholder with
    | .uuid id, .uuids ids => ids.contains id
    | _, _ => false

/-- Which of two rows comes first: the first term that tells them apart decides. -/
def OrderTerm.compareRows (terms : List OrderTerm) (first second : Row) : Ordering :=
  match terms with
  | [] => .eq
  | term :: rest =>
    (Cell.order (term.direction.getD {}) (first.get term.column) (second.get term.column)).then
      (compareRows rest first second)

/-- Rows in the order of the terms; rows that are level keep their places. -/
def sortRows (terms : List OrderTerm) (rows : List Row) : List Row :=
  rows.mergeSort fun first second => (OrderTerm.compareRows terms first second).isLE

/-- The number in a cell; a missing one counts as zero. -/
def Cell.toCount : Cell → Nat
  | .integer n => n.toNat
  | _ => 0

/-- The rows in a window. Without a number of rows wanted there is no end. -/
def cutWindow (window : Option Window) (value : Nat → Cell) (rows : List Row) : List Row :=
  match window with
  | none => rows
  | some window =>
    let rest := rows.drop (value window.offset).toCount
    match value window.limit with
    | .integer limit => rest.take limit.toNat
    | _ => rest

/-- The rows that a selection finds. -/
def select (tables : Tables) (value : Nat → Cell) (table : Table) (filter : Filter)
    (order : List OrderTerm) (window : Option Window) : List Row :=
  cutWindow window value (sortRows order ((tables.rows table).filter (filter.holds value)))

/-! ### Adding rows -/

/-- The columns whose values together may occur only once, by the name of the constraint. -/
def Table.uniqueKeys : Table → List (String × List String)
  | .accounts => [("accounts_pkey", ["id"]), ("uq_accounts_email", ["email"])]
  | .items => [("items_pkey", ["id"])]
  | .orders => [("orders_pkey", ["id"])]
  | .orderItems =>
    [("order_items_pkey", ["id"]), ("uq_order_items_position", ["order_id", "position"])]

/-- The columns that refer to the identifiers of a table, by the name of the constraint. -/
def Table.references : Table → List (String × String × Table)
  | .accounts | .items => []
  | .orders => [("orders_account_id_fkey", "account_id", .accounts)]
  | .orderItems =>
    [("order_items_order_id_fkey", "order_id", .orders),
      ("order_items_item_id_fkey", "item_id", .items)]

/-- The bound that a row violates, if there is one. -/
def Table.violatedBound? (table : Table) (row : Row) : Option String :=
  match table with
  | .accounts =>
    match row.get "gender" with
    | .integer gender => if 0 ≤ gender ∧ gender ≤ 2 then none else some "ck_accounts_gender"
    | _ => none
  | .items =>
    match row.get "price" with
    | .real price => if 0 ≤ price.key then none else some "ck_items_price"
    | _ => none
  | .orders => none
  | .orderItems =>
    match row.get "quantity" with
    | .integer quantity => if 0 < quantity then none else some "ck_order_items_quantity"
    | _ => none

/-- Have two rows the same values in these columns? Missing values are never the same. -/
def sameIn (columns : List String) (first second : Row) : Bool :=
  columns.all fun column => !(first.get column).isNull && first.get column == second.get column

/-- The constraint that forbids a row beside others, if there is one. -/
def Table.violatedKey? (table : Table) (present : List Row) (row : Row) : Option String :=
  (table.uniqueKeys.find? fun key => present.any (sameIn key.2 row)).map Prod.fst

/-- The constraint by which a row refers to one that does not exist, if there is one. -/
def Table.dangling? (table : Table) (tables : Tables) (row : Row) : Option String :=
  (table.references.find? fun reference =>
    !(tables.rows reference.2.2).any fun other =>
      row.get reference.2.1 == other.get "id").map Prod.fst

/-- What forbids a row beside others, as far as its own table shows. -/
def Table.checkRow (table : Table) (present : List Row) (row : Row) : Except Report Unit :=
  match table.violatedBound? row with
  | some constraint => .error (.outOfBounds table.name constraint)
  | none =>
    match table.violatedKey? present row with
    | some constraint => .error (.duplicate constraint)
    | none => .ok ()

/-- Each row is checked beside those that are there and the ones before it. -/
def Table.checkEach (table : Table) (present : List Row) : List Row → Except Report Unit
  | [] => .ok ()
  | row :: rest => do
    table.checkRow present row
    checkEach table (present ++ [row]) rest

/-- What forbids rows: first each of them beside its table, then what they refer to. -/
def checkRows (tables : Tables) (table : Table) (rows : List Row) : Except Report Unit := do
  table.checkEach (tables.rows table) rows
  match rows.findSome? (table.dangling? tables) with
  | some constraint => .error (.dangling table.name constraint)
  | none => .ok ()

/-- A value as it is kept: moments lose what is below a microsecond. -/
def Cell.stored : Cell → Cell
  | .instant moment => .instant moment.stored
  | cell => cell

/-- The rows that an `INSERT` adds: each group of placeholders stands for the columns of one row. -/
def batchRows (table : Table) (groups : List (List Nat)) (value : Nat → Cell) : List Row :=
  groups.map fun group => table.columns.zip (group.map fun placeholder => (value placeholder).stored)

/-! ### Values that are refused -/

/-- Why the server refuses a value before it looks at the statement. -/
def Cell.refused? : Cell → Option Report
  | .text value => if value.toList.contains '\x00' then some .invalidText else none
  | .date value =>
    if value.daysFromEpoch < Calendar.daysFromEpoch (-4713) 11 24 then some .dateOutOfRange else none
  | _ => none

/-- Why the server refuses the values of a statement: the first one that it refuses decides. -/
def Statement.refused? (statement : Statement) : Option Report :=
  statement.values.findSome? Cell.refused?

/-! ### Transactions -/

/-- Which state a transaction sees: the latest one, or the one that its first reading statement
saw. -/
inductive Visibility
  | latest
  | fixed (seen : Option Tables)

/-- A transaction as the server knows it: what it has written, what it sees besides, and whether a statement
in it has failed. -/
structure Transaction where
  written : Tables := .empty
  visibility : Visibility := .latest
  failed : Bool := false

namespace Transaction

/-- The state that the transaction sees, apart from what it has written. -/
def base (committed : Tables) (transaction : Transaction) : Tables :=
  match transaction.visibility with
  | .fixed (some seen) => seen
  | _ => committed

/-- The transaction after a statement that has looked at the tables. -/
def looked (committed : Tables) (transaction : Transaction) : Transaction :=
  match transaction.visibility with
  | .fixed none => { transaction with visibility := .fixed (some committed) }
  | _ => transaction

end Transaction

/-- What a statement sees: the committed rows and, in a transaction, those that it has written itself. -/
def visible (committed : Tables) : Option Transaction → Tables
  | none => committed
  | some transaction => transaction.base committed ++ transaction.written

/-- What a statement leads to: its answer, the tables, and the transaction of the connection. -/
structure Effect where
  answer : Except Report (List Row)
  tables : Tables
  transaction : Option Transaction

/-- A statement that is refused; a transaction fails with it. -/
def Effect.refuse (report : Report) (tables : Tables) (transaction : Option Transaction) : Effect where
  answer := .error report
  tables := tables
  transaction := transaction.map fun transaction => { transaction with failed := true }

/-- A statement that has looked at the tables. -/
def Effect.found (rows : List Row) (tables : Tables) (transaction : Option Transaction) : Effect where
  answer := .ok rows
  tables := tables
  transaction := transaction.map (Transaction.looked tables)

/-- The effect of adding rows that nothing forbids. -/
def Effect.added (table : Table) (rows answer : List Row) (tables : Tables) :
    Option Transaction → Effect
  | none => ⟨.ok answer, tables ++ .only rows table, none⟩
  | some transaction =>
    ⟨.ok answer, tables,
      some { transaction.looked tables with written := transaction.written ++ .only rows table }⟩

/-- One statement in a transaction that has not failed, or outside of one. -/
def perform (tables : Tables) (transaction : Option Transaction) (statement : Statement) : Effect :=
  let seen := visible tables transaction
  match statement.query with
  | .begin => ⟨.ok [], tables, some {}⟩
  | .snapshot =>
    ⟨.ok [], tables, transaction.map fun current => { current with visibility := .fixed none }⟩
  | .commit => ⟨.ok [], tables ++ (transaction.map Transaction.written).getD .empty, none⟩
  | .rollback => ⟨.ok [], tables, none⟩
  | .ping => ⟨.ok [[("?column?", .integer 1)]], tables, transaction⟩
  | .count table filter =>
    .found [[("count", .integer ((seen.rows table).filter (filter.holds statement.value)).length)]]
      tables transaction
  | .exists table filter =>
    .found [[("exists", .truth ((seen.rows table).any (filter.holds statement.value)))]]
      tables transaction
  | .select table filter order window =>
    .found (select seen statement.value table filter order window) tables transaction
  | .insert table groups returning =>
    let rows := batchRows table groups statement.value
    match checkRows seen table rows with
    | .error report => .refuse report tables transaction
    | .ok () => .added table rows (if returning then rows else []) tables transaction

/-- One statement. A transaction that has failed takes nothing but its end. -/
def execute (tables : Tables) (transaction : Option Transaction) (statement : Statement) : Effect :=
  if (transaction.map Transaction.failed).getD false then
    match statement.query with
    | .commit | .rollback => ⟨.ok [], tables, none⟩
    | _ => .refuse .aborted tables transaction
  else perform tables transaction statement

/-! ### What becomes of the tables -/

/-- May the statement change the tables at once? -/
def Query.writes : Query → Bool
  | .insert _ _ _ | .commit => true
  | _ => false

/-- A statement leaves the tables as they are or adds rows behind theirs. -/
theorem execute_tables (tables : Tables) (transaction : Option Transaction) (statement : Statement) :
    ∃ rows, (execute tables transaction statement).tables = tables ++ rows := by
  have same : ∃ rows, tables = tables ++ rows := ⟨.empty, (Tables.append_empty tables).symm⟩
  unfold execute
  split
  · split <;> exact same
  · unfold perform
    cases statement.query with
    | commit => exact ⟨_, rfl⟩
    | insert table groups returning =>
      dsimp only
      split
      · exact same
      · cases transaction with
        | none => exact ⟨_, rfl⟩
        | some transaction => exact same
    | _ => exact same

/-- Only a batch of rows and a commit add any. -/
theorem execute_tables_of_not_write {tables : Tables} {transaction : Option Transaction}
    {statement : Statement} (reads : statement.query.writes = false) :
    (execute tables transaction statement).tables = tables := by
  unfold execute
  split
  · split <;> rfl
  · unfold perform
    cases query : statement.query <;> simp_all [Query.writes, Effect.found]

end Storefront
