/-
**What can be added to the tables.**

Accounts, items and orders reach the tables in three ways only, and `Addition` lists them: a row for
an account, a row for an item, or a row for an order together with a row for each of its lines.
Each of them has passed the checks of the server in the tables that it is added to.  `Tables.Grown`
says that tables have become others by any number of additions.

Main statements:

* `batchRows_insert`: a batch adds the rows that its values describe, each as its table keeps it;
* `Tables.Grown.behind`: growing only puts rows behind those that were there;
* `Tables.Grown.lines_eq`: an order that is in the tables gets no further lines.
-/

import Mathlib.Logic.Relation
import Storefront.Account.Store
import Storefront.Execution.Run
import Storefront.Order.Store
import Storefront.Proofs.Database.Check

namespace Storefront

open Storefront.Text

/-! ### Rows as they are kept -/

/-- The row that a table keeps of cells. -/
def Table.kept (table : Table) (cells : List Cell) : Row :=
  table.columns.zip (cells.map Cell.stored)

/-- The row that is kept of an account. -/
def Account.kept (account : Account) : Row := Table.accounts.kept account.cells

/-- The row that is kept of an item. -/
def Item.kept (item : Item) : Row := Table.items.kept item.cells

/-- The row that is kept of a line. -/
def OrderLine.kept (line : OrderLine) : Row := Table.orderItems.kept line.cells

/-- The row that is kept of an order, apart from its lines. -/
def Order.header (order : Order) : Row := Table.orders.kept order.cells

/-- The rows that are kept of an order and its lines. -/
def Order.kept (order : Order) : Tables where
  orders := [order.header]
  orderItems := order.items.map OrderLine.kept

section Cells

variable (account : Account) (item : Item) (order : Order) (line : OrderLine)

@[simp]
theorem Account.kept_id : account.kept.get "id" = .uuid account.id := rfl

@[simp]
theorem Account.kept_email : account.kept.get "email" = .text account.email := rfl

@[simp]
theorem Item.kept_id : item.kept.get "id" = .uuid item.id := rfl

@[simp]
theorem Order.header_id : order.header.get "id" = .uuid order.id := rfl

@[simp]
theorem Order.header_accountId : order.header.get "account_id" = .uuid order.accountId := rfl

@[simp]
theorem OrderLine.kept_id : line.kept.get "id" = .uuid line.id := rfl

@[simp]
theorem OrderLine.kept_orderId : line.kept.get "order_id" = .uuid line.orderId := rfl

@[simp]
theorem OrderLine.kept_itemId : line.kept.get "item_id" = .uuid line.itemId := rfl

@[simp]
theorem OrderLine.kept_quantity : line.kept.get "quantity" = .integer line.quantity := rfl

end Cells

/-- The values of a row are those of its placeholders. -/
theorem Statement.map_value_range' {statement : Statement} {before row after : List Cell}
    (values : statement.values = before ++ (row ++ after)) :
    (List.range' (before.length + 1) row.length).map statement.value = row := by
  apply List.ext_getElem
  · simp
  · intro index _ inside
    rw [List.getElem_map, List.getElem_range', Nat.one_mul, Nat.add_right_comm]
    unfold Statement.value
    dsimp only
    rw [values, List.getElem?_append_right (Nat.le_add_right _ _), Nat.add_sub_cancel_left,
      List.getElem?_append_left inside, List.getElem?_eq_getElem inside]
    rfl

/-- A batch adds the rows that its values describe, each as its table keeps it. -/
theorem batchRows_insert (table : Table) (rows : List (List Cell)) (returning : Bool) :
    batchRows table (Statement.numberGroups 1 rows) (Statement.insert table rows returning).value =
      rows.map table.kept := by
  -- the induction needs to know how many values stand before the rows that are left
  suffices general : ∀ (statement : Statement) (before : List Cell) (rows : List (List Cell)),
      statement.values = before ++ rows.flatten →
        batchRows table (Statement.numberGroups (before.length + 1) rows) statement.value =
          rows.map table.kept from general _ [] rows rfl
  intro statement before rows values
  induction rows generalizing before with
  | nil => rfl
  | cons row rest ih =>
    have here : (List.range' (before.length + 1) row.length).map statement.value = row :=
      Statement.map_value_range' values
    have later := ih (before ++ row) (by rw [values, List.flatten_cons, List.append_assoc])
    rw [List.length_append, Nat.add_right_comm] at later
    rw [Statement.numberGroups, batchRows, List.map_cons, ← batchRows, later, List.map_cons]
    have stored := congrArg (List.map Cell.stored) here
    rw [List.map_map] at stored
    rw [Table.kept, ← stored]
    rfl

/-- A shop with one customer and one item. -/
def Tables.sample : Tables where
  accounts := [(Account.register ⟨"ada@example.org", some "Ada", none, none, .female⟩
    (.numbered 1) ⟨0⟩).kept]
  items := [(Item.register ⟨"Tea", none, ⟨0⟩⟩ (.numbered 2) ⟨0⟩).kept]

/-! ### Additions -/

namespace Tables

variable {tables first second : Tables}

/-- Nothing has been added if nothing has changed. -/
theorem append_eq_self_iff : tables ++ first = tables ↔ first = .empty := by
  rcases tables with ⟨_, _, _, _⟩
  rcases first with ⟨_, _, _, _⟩
  simp [append_def, empty]

theorem eq_empty_of_append (nothing : first ++ second = .empty) : second = .empty := by
  rcases first with ⟨_, _, _, _⟩
  rcases second with ⟨_, _, _, _⟩
  simp [append_def, empty] at nothing ⊢
  simp [nothing]

/-- What has been added can be told from the change. -/
theorem append_left_cancel (same : tables ++ first = tables ++ second) : first = second := by
  rcases tables with ⟨_, _, _, _⟩
  rcases first with ⟨_, _, _, _⟩
  rcases second with ⟨_, _, _, _⟩
  simpa [append_def] using same

@[simp]
theorem empty_append : (empty ++ tables : Tables) = tables := by
  simp [append_def, empty]

theorem accounts_append : (first ++ second).accounts = first.accounts ++ second.accounts := rfl

theorem items_append : (first ++ second).items = first.items ++ second.items := rfl

theorem orders_append : (first ++ second).orders = first.orders ++ second.orders := rfl

theorem orderItems_append :
    (first ++ second).orderItems = first.orderItems ++ second.orderItems := rfl

end Tables

/-- The rows of an order are its header and its lines. -/
theorem Order.only_append (order : Order) :
    Tables.only [order.header] .orders ++ .only (order.items.map OrderLine.kept) .orderItems =
      order.kept := by
  simp [Tables.append_def, Tables.only, kept]

/-- Every line belongs to the order, and the positions count from zero. -/
def Order.Numbered (order : Order) : Prop :=
  order.items.map (fun line => (line.orderId, line.position)) =
    (List.range order.items.length).map fun position : Nat => (order.id, (position : Int))

/-- Nothing forbids the rows of an order in these tables. -/
structure Order.FitsIn (order : Order) (tables : Tables) : Prop where
  header : checkRows tables .orders [order.header] = .ok ()
  lines : checkRows (tables ++ .only [order.header] .orders) .orderItems
    (order.items.map OrderLine.kept) = .ok ()

/-- Rows that may be added to tables. -/
inductive Addition (tables : Tables) : Tables → Prop
  | account (account : Account) (tidy : trimmed account.email = account.email)
      (fits : checkRows tables .accounts [account.kept] = .ok ()) :
      Addition tables (.only [account.kept] .accounts)
  | item (item : Item) (fits : checkRows tables .items [item.kept] = .ok ()) :
      Addition tables (.only [item.kept] .items)
  | order (order : Order) (numbered : order.Numbered) (fits : order.FitsIn tables) :
      Addition tables order.kept

/-- The first tables have become the second ones by additions. -/
def Tables.Grown : Tables → Tables → Prop :=
  Relation.ReflTransGen fun earlier later => ∃ rows, Addition earlier rows ∧ later = earlier ++ rows

namespace Tables.Grown

variable {earlier later : Tables}

theorem add {rows : Tables} (grown : earlier.Grown later) (addition : Addition later rows) :
    earlier.Grown (later ++ rows) :=
  Relation.ReflTransGen.tail grown ⟨rows, addition, rfl⟩

/-- Growing only puts rows behind those that were there. -/
theorem behind (grown : earlier.Grown later) : later.Extends earlier := by
  induction grown with
  | refl => exact .refl _
  | tail _ step ih =>
    obtain ⟨rows, _, rfl⟩ := step
    exact Tables.Extends.trans ⟨rows, rfl⟩ ih

theorem mem_rows (grown : earlier.Grown later) {table : Table} {row : Row}
    (member : row ∈ earlier.rows table) : row ∈ later.rows table := by
  obtain ⟨rows, rfl⟩ := grown.behind
  rw [Tables.rows_append]
  exact List.mem_append_left _ member

end Tables.Grown

/-- The order of the rows that are let in is new. -/
theorem Order.FitsIn.new {order : Order} {tables : Tables} (fits : order.FitsIn tables) {row : Row}
    (member : row ∈ tables.orders) : row.get "id" ≠ .uuid order.id := by
  obtain ⟨each, _⟩ := checkRows_eq_ok_iff.mp fits.header
  obtain ⟨checked, _⟩ := Table.checkEach_cons_iff.mp each
  have clash := Table.violatedKey?_eq_none_iff.mp (Table.checkRow_eq_ok_iff.mp checked).2
    ("orders_pkey", ["id"]) (List.mem_singleton_self _) row member
  intro same
  simp [sameIn, same, Cell.isNull] at clash

/-- What fits once still fits when accounts and items have been added, but no orders. -/
theorem Order.FitsIn.of_more {order : Order} {tables more : Tables} (fits : order.FitsIn tables)
    (kept : ∀ table, ∀ row ∈ tables.rows table, row ∈ more.rows table)
    (orders : more.orders = tables.orders) (lines : more.orderItems = tables.orderItems) :
    order.FitsIn more where
  header := checkRows_of_more orders kept fits.header
  lines := by
    refine checkRows_of_more ?_ ?_ fits.lines
    · rw [Tables.rows_append, Tables.rows_append]
      exact congrArg (· ++ _) lines
    · intro table row member
      rw [Tables.rows_append, List.mem_append] at member ⊢
      exact member.imp_left (kept table row)

theorem Order.Numbered.orderId_eq {order : Order} (numbered : order.Numbered) {line : OrderLine}
    (member : line ∈ order.items) : line.orderId = order.id := by
  have there : (line.orderId, line.position) ∈
      (List.range order.items.length).map fun position : Nat => (order.id, (position : Int)) :=
    numbered ▸ List.mem_map_of_mem member
  obtain ⟨position, _, same⟩ := List.mem_map.mp there
  exact (congrArg Prod.fst same).symm

/-- An order that is in the tables gets no further lines. -/
theorem Tables.Grown.lines_eq {earlier later : Tables} (grown : earlier.Grown later) {id : Uuid}
    (there : ∃ row ∈ earlier.orders, row.get "id" = .uuid id) :
    (later.orderItems.filter fun row => row.get "order_id" == .uuid id) =
      earlier.orderItems.filter fun row => row.get "order_id" == .uuid id := by
  induction grown with
  | refl => rfl
  | tail before step ih =>
    obtain ⟨rows, addition, rfl⟩ := step
    rw [← ih]
    obtain ⟨row, member, named⟩ := there
    have still : row ∈ Tables.rows _ .orders := Tables.Grown.mem_rows before member
    rw [Tables.orderItems_append, List.filter_append]
    cases addition with
    | account account tidy fits => exact List.append_nil _
    | item item fits => exact List.append_nil _
    | order order numbered fits =>
      have other : order.id ≠ id := by
        rintro rfl
        exact fits.new still named
      have foreign : (order.kept.orderItems.filter fun row => row.get "order_id" == .uuid id) = [] := by
        rw [List.filter_eq_nil_iff]
        intro row added
        obtain ⟨line, own, rfl⟩ := List.mem_map.mp added
        simpa [numbered.orderId_eq own] using other
      rw [foreign, List.append_nil]

end Storefront
