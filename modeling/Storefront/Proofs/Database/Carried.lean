/-
**Statements that are carried out.**

What the server does with a statement in a transaction that stands, and outside of one.  A statement
that looks at the tables is answered with rows of the state that it sees.  A batch of rows is
refused or added, and the answer and the transaction afterwards say which.

Main statements:

* `execute_of_looks`, `execute_insert_error`, `execute_insert_ok`: what becomes of the two kinds of
  statements;
* `mem_rows_of_select`, `nodup_select`: a selection finds rows of the table, each of them once.
-/

import Storefront.Proofs.Database.Addition

namespace Storefront

/-- Does the query only look at the tables? -/
def Query.looks : Query → Bool
  | .count _ _ | .exists _ _ | .select _ _ _ _ => true
  | _ => false

/-- The rows that answer a statement which looks at these tables. -/
def Statement.rowsOn [Collation] (statement : Statement) (tables : Tables) : List Row :=
  match statement.query with
  | .count table filter =>
    [[("count", .integer ((tables.rows table).filter (filter.holds statement.value)).length)]]
  | .exists table filter =>
    [[("exists", .truth ((tables.rows table).any (filter.holds statement.value)))]]
  | .select table filter order window => select tables statement.value table filter order window
  | _ => []

/-- A transaction that has not failed takes every statement. -/
theorem execute_of_stands [Collation] {tables : Tables} {transaction : Option Transaction}
    {statement : Statement} (stands : (transaction.map Transaction.failed).getD false = false) :
    execute tables transaction statement = perform tables transaction statement := by
  unfold execute
  rw [stands, if_neg Bool.false_ne_true]

/-- A statement that looks at the tables is answered with rows of the state that it sees. -/
theorem execute_of_looks [Collation] {tables : Tables} {transaction : Option Transaction}
    {statement : Statement} (looks : statement.query.looks = true)
    (stands : (transaction.map Transaction.failed).getD false = false) :
    execute tables transaction statement =
      .found (statement.rowsOn (visible tables transaction)) tables transaction := by
  unfold execute
  rw [stands, if_neg Bool.false_ne_true]
  unfold perform Statement.rowsOn
  cases query : statement.query with
  | count table filter => rfl
  | «exists» table filter => rfl
  | select table filter order window => rfl
  | _ =>
    rw [query] at looks
    cases looks

/-! ### Selections -/

section Selections

variable {tables : Tables} {value : Nat → Cell} {table : Table} {filter : Filter}
  {order : List OrderTerm} {window : Option Window}

/-- The rows with a value in a column are those that the filter lets through. -/
theorem holds_equals {query : Query} {column : String} {cell : Cell} {values : List Cell} {row : Row}
    (present : cell.isNull = false) :
    (Filter.equals column 1).holds (Statement.value ⟨query, cell :: values⟩) row =
      (row.get column == cell) := by
  rw [Filter.holds, show Statement.value ⟨query, cell :: values⟩ 1 = cell from rfl]
  by_cases same : row.get column = cell
  · rw [same, present]
    simp
  · rw [beq_false_of_ne same, Bool.false_and]

/-- A window leaves out rows. -/
theorem cutWindow_sublist (window : Option Window) (value : Nat → Cell) (rows : List Row) :
    (cutWindow window value rows).Sublist rows := by
  unfold cutWindow
  split
  · exact List.Sublist.refl rows
  · split
    · exact (List.take_sublist _ _).trans (List.drop_sublist _ _)
    · exact List.drop_sublist _ _

/-- The rows of a selection are rows of the table. -/
theorem mem_rows_of_select [Collation] {row : Row}
    (member : row ∈ select tables value table filter order window) :
    row ∈ tables.rows table := by
  have sorted := (cutWindow_sublist _ _ _).mem member
  unfold sortRows at sorted
  rw [List.mem_mergeSort, List.mem_filter] at sorted
  exact sorted.1

/-- A selection repeats nothing that the table does not repeat. -/
theorem nodup_select [Collation] {key : Row → Cell} (distinct : ((tables.rows table).map key).Nodup) :
    ((select tables value table filter order window).map key).Nodup := by
  have filtered := distinct.sublist ((List.filter_sublist (p := filter.holds value)).map key)
  have sorted := ((List.mergeSort_perm ((tables.rows table).filter (filter.holds value))
    fun first second => (OrderTerm.compareRows order first second).isLE).map key).nodup_iff.mpr filtered
  exact sorted.sublist ((cutWindow_sublist _ _ _).map key)

end Selections

/-! ### Batches -/

section Batches

variable [Collation] {tables : Tables} {transaction : Option Transaction} {table : Table}
  {rows : List (List Cell)} {returning : Bool}

/-- A batch is refused for what forbids its rows. -/
theorem execute_insert_error {report : Report}
    (stands : (transaction.map Transaction.failed).getD false = false)
    (forbidden : checkRows (visible tables transaction) table (rows.map table.kept) =
      .error report) :
    execute tables transaction (Statement.insert table rows returning) =
      .refuse report tables transaction := by
  rw [execute_of_stands stands]
  unfold perform
  dsimp only [Statement.insert]
  have kept : batchRows table (Statement.numberGroups 1 rows)
      (Statement.mk (.insert table (Statement.numberGroups 1 rows) returning) rows.flatten).value =
        rows.map table.kept := batchRows_insert table rows returning
  simp only [kept, forbidden]

/-- A batch that nothing forbids is added. -/
theorem execute_insert_ok (stands : (transaction.map Transaction.failed).getD false = false)
    (fits : checkRows (visible tables transaction) table (rows.map table.kept) = .ok ()) :
    execute tables transaction (Statement.insert table rows returning) =
      .added table (rows.map table.kept) (if returning then rows.map table.kept else []) tables
        transaction := by
  rw [execute_of_stands stands]
  unfold perform
  dsimp only [Statement.insert]
  have kept : batchRows table (Statement.numberGroups 1 rows)
      (Statement.mk (.insert table (Statement.numberGroups 1 rows) returning) rows.flatten).value =
        rows.map table.kept := batchRows_insert table rows returning
  simp only [kept, fits]

/-- A batch in a transaction waits there. -/
theorem tables_execute_insert {transaction : Transaction}
    (stands : ((some transaction).map Transaction.failed).getD false = false) :
    (execute tables (some transaction) (Statement.insert table rows returning)).tables = tables := by
  cases checked : checkRows (visible tables (some transaction)) table (rows.map table.kept) with
  | error report => rw [execute_insert_error stands checked, Effect.refuse]
  | ok done => rw [execute_insert_ok stands checked, Effect.added]

end Batches

end Storefront
