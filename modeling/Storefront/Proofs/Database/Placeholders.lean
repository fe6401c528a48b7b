/-
**Which value a placeholder stands for.**

The rows of a batch all have as many values as there are columns.  So the placeholders fall into groups of
that size, and the place of a value in its row and the place of the row in the batch tell its placeholder.

Main statements:

* `Statement.numberGroups_eq`: the groups of placeholders;
* `Statement.value_insert`: the value that a placeholder stands for;
* `execute_insert_answer_iff`: which batches are added.
-/

import Storefront.Proofs.Database.Carried

namespace Storefront

/-! ### Rows of one width -/

section Wide

variable {α : Type} {width : Nat} {rows : List (List α)}

theorem length_flatten_of_wide (wide : ∀ row ∈ rows, row.length = width) :
    rows.flatten.length = width * rows.length := by
  induction rows with
  | nil => rfl
  | cons row rest ih =>
    obtain ⟨first, others⟩ := List.forall_mem_cons.mp wide
    rw [List.flatten_cons, List.length_append, first, ih others, List.length_cons, Nat.mul_succ,
      Nat.add_comm]

/-- The place of a value when all rows are put behind each other. -/
theorem getElem?_flatten_of_wide (wide : ∀ row ∈ rows, row.length = width) {index column : Nat}
    {row : List α} (there : rows[index]? = some row) (inside : column < width) :
    rows.flatten[width * index + column]? = row[column]? := by
  induction rows generalizing index with
  | nil => cases there
  | cons first rest ih =>
    obtain ⟨long, others⟩ := List.forall_mem_cons.mp wide
    cases index with
    | zero =>
      obtain rfl := Option.some.inj there
      rw [List.flatten_cons, Nat.mul_zero, Nat.zero_add, List.getElem?_append_left (long ▸ inside)]
    | succ index =>
      have behind : width * (index + 1) + column = first.length + (width * index + column) := by
        rw [long, Nat.mul_succ]
        omega
      rw [List.flatten_cons, behind, List.getElem?_append_right (Nat.le_add_right _ _),
        Nat.add_sub_cancel_left]
      exact ih others there

end Wide

namespace Statement

variable {table : Table} {rows : List (List Cell)} {returning : Bool} {width : Nat}

/-- The groups of placeholders follow each other without a gap. -/
theorem numberGroups_eq (wide : ∀ row ∈ rows, row.length = width) (first : Nat) :
    numberGroups first rows =
      (List.range rows.length).map fun index => List.range' (width * index + first) width := by
  induction rows generalizing first with
  | nil => rfl
  | cons row rest ih =>
    obtain ⟨long, others⟩ := List.forall_mem_cons.mp wide
    rw [numberGroups, ih others, List.length_cons, List.range_succ_eq_map, List.map_cons, List.map_map,
      long, Nat.mul_zero, Nat.zero_add]
    congr 1
    refine List.map_congr_left fun index _ => congrArg (List.range' · width) ?_
    rw [Nat.mul_succ]
    omega

/-- The value that a placeholder stands for, by its row and its place in that row. -/
theorem value_insert (wide : ∀ row ∈ rows, row.length = width) {index column : Nat} {row : List Cell}
    {cell : Cell} (there : rows[index]? = some row) (own : row[column]? = some cell) :
    (insert table rows returning).value (width * index + column + 1) = cell := by
  have inside : column < width := by
    rw [← wide row (List.mem_of_getElem? there)]
    exact (List.getElem?_eq_some_iff.mp own).1
  have found : rows.flatten[width * index + column]? = some cell :=
    (getElem?_flatten_of_wide wide there inside).trans own
  have value : (insert table rows returning).value (width * index + column + 1) =
      (rows.flatten[width * index + column]?).getD .null := rfl
  rw [value, found, Option.getD_some]

end Statement

/-! ### Batches that are added -/

section Batches

variable [Collation] {tables : Tables} {transaction : Option Transaction} {table : Table}
  {rows : List (List Cell)} {returning : Bool}

/-- A transaction that has failed takes no batch. -/
theorem execute_insert_failed (failed : (transaction.map Transaction.failed).getD false = true) :
    execute tables transaction (Statement.insert table rows returning) =
      .refuse .aborted tables transaction := by
  unfold execute
  rw [failed, if_pos rfl]
  rfl

/-- A batch is added exactly if its transaction has not failed and nothing forbids its rows. -/
theorem execute_insert_answer_iff :
    (∃ answer, (execute tables transaction (Statement.insert table rows returning)).answer = .ok answer) ↔
      (transaction.map Transaction.failed).getD false = false ∧
        checkRows (visible tables transaction) table (rows.map table.kept) = .ok () := by
  cases stands : (transaction.map Transaction.failed).getD false with
  | true =>
    rw [execute_insert_failed stands]
    exact ⟨nofun, nofun⟩
  | false =>
    cases checked : checkRows (visible tables transaction) table (rows.map table.kept) with
    | error report =>
      rw [execute_insert_error stands checked]
      exact ⟨nofun, nofun⟩
    | ok done =>
      rw [execute_insert_ok stands checked]
      refine ⟨fun _ => ⟨rfl, rfl⟩, fun _ => ?_⟩
      cases transaction <;> exact ⟨_, rfl⟩

/-- Once a batch has been added its rows are seen behind all others. -/
theorem visible_execute_insert {answer : List Row}
    (added : (execute tables transaction (Statement.insert table rows returning)).answer = .ok answer) :
    visible (execute tables transaction (Statement.insert table rows returning)).tables
        (execute tables transaction (Statement.insert table rows returning)).transaction =
      visible tables transaction ++ .only (rows.map table.kept) table := by
  obtain ⟨stands, fits⟩ := execute_insert_answer_iff.mp ⟨answer, added⟩
  rw [execute_insert_ok stands fits]
  cases transaction with
  | none => rfl
  | some transaction =>
    have same : (transaction.looked tables).base tables = transaction.base tables := by
      rcases transaction with ⟨_, _ | _ | _, _⟩ <;> rfl
    have seen : (transaction.looked tables).base tables ++
        (transaction.written ++ Tables.only (rows.map table.kept) table) =
          visible tables (some transaction) ++ .only (rows.map table.kept) table := by
      rw [same, visible, Tables.append_assoc]
    exact seen

end Batches

end Storefront
