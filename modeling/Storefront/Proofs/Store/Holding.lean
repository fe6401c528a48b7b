/-
**Tables that hold records.**

`Tables.Holds` says which items and which orders, with their lines, tables hold; every state that a
store reaches holds some (`Tables.Grown.holds`).  What a selection finds in such tables are rows of
records, arranged by the keys and cut to the window.

Main statements:

* `Tables.Grown.holds`: tables that have grown from empty ones hold items and orders;
* `rowsOn_select`: a selection finds the window of the arranged records.
-/

import Storefront.Proofs.Paging.Arrangement
import Storefront.Proofs.Store.Entities

namespace Storefront

/-- The tables hold these items, and these orders with their lines. -/
structure Tables.Holds (tables : Tables) (items : List Item) (orders : List Order) : Prop where
  itemRows : tables.items = items.map Item.row
  orderRows : tables.orders = orders.map Order.row
  distinct : (orders.map Order.id).Nodup
  /-- An order has the lines that name it, in the order of their positions. -/
  lines : ∃ lines : List OrderLine, tables.orderItems = lines.map OrderLine.row ∧
    ∀ order ∈ orders, order.items.Perm (lines.filter fun line => line.orderId == order.id) ∧
      order.items.Pairwise fun first second => first.position < second.position

/-! ### States that are reached -/

/-- A line as its row keeps it. -/
def OrderLine.stored (line : OrderLine) : OrderLine :=
  { line with createdAt := line.createdAt.stored, updatedAt := line.updatedAt.stored }

/-- An order with its lines as their rows keep them. -/
def Order.stored (order : Order) : Order :=
  { order with
    createdAt := order.createdAt.stored
    updatedAt := order.updatedAt.stored
    items := order.items.map OrderLine.stored }

namespace Tables

variable {tables : Tables} {items : List Item} {orders : List Order}

theorem holds_empty : Tables.empty.Holds [] [] where
  itemRows := rfl
  orderRows := rfl
  distinct := List.nodup_nil
  lines := ⟨[], rfl, nofun⟩

/-- A new order is held with its lines. -/
theorem Holds.add_order (holds : tables.Holds items orders) (sound : tables.Sound) {order : Order}
    (numbered : order.Numbered) (fits : order.FitsIn tables) :
    (tables ++ order.kept).Holds items (orders ++ [order.stored]) := by
  obtain ⟨lines, lineRows, own⟩ := holds.lines
  have other : ∀ earlier ∈ orders, earlier.id ≠ order.id := by
    intro earlier member same
    have row : earlier.row ∈ tables.orders := holds.orderRows ▸ List.mem_map_of_mem member
    exact fits.new row (congrArg Cell.uuid same)
  have new : ∀ line ∈ lines, line.orderId ≠ order.id := by
    intro line member same
    have row : line.row ∈ tables.orderItems := lineRows ▸ List.mem_map_of_mem member
    obtain ⟨placed, there, refers⟩ := sound.placed _ row
    exact fits.new there (refers.symm.trans (congrArg Cell.uuid same))
  have added : ∀ line ∈ order.items.map OrderLine.stored, line.orderId = order.id := by
    intro line member
    obtain ⟨given, inside, rfl⟩ := List.mem_map.mp member
    have same : given.orderId = order.id := numbered.orderId_eq inside
    exact same
  refine { itemRows := ?_, orderRows := ?_, distinct := ?_, lines := ?_ }
  · rw [items_append, holds.itemRows]
    exact List.append_nil _
  · rw [orders_append, holds.orderRows, List.map_append]
    rfl
  · rw [List.map_append, List.nodup_append]
    refine ⟨holds.distinct, List.nodup_cons.mpr ⟨nofun, List.nodup_nil⟩, ?_⟩
    intro first old second member
    obtain ⟨earlier, inside, rfl⟩ := List.mem_map.mp old
    rw [List.mem_singleton.mp member]
    exact other earlier inside
  · refine ⟨lines ++ order.items.map OrderLine.stored, ?_, ?_⟩
    · rw [orderItems_append, lineRows, List.map_append, List.map_map]
      rfl
    · intro held member
      rw [List.filter_append]
      rcases List.mem_append.mp member with old | new'
      · have foreign : ((order.items.map OrderLine.stored).filter fun line =>
            line.orderId == held.id) = [] := by
          refine List.filter_eq_nil_iff.mpr fun line inside => ?_
          rw [added line inside, beq_iff_eq]
          exact (other held old).symm
        rw [foreign, List.append_nil]
        exact own held old
      · rw [List.mem_singleton.mp new']
        have foreign : (lines.filter fun line => line.orderId == order.stored.id) = [] :=
          List.filter_eq_nil_iff.mpr fun line inside same => new line inside (beq_iff_eq.mp same)
        have all : ((order.items.map OrderLine.stored).filter fun line =>
            line.orderId == order.stored.id) = order.items.map OrderLine.stored :=
          List.filter_eq_self.mpr fun line inside => beq_iff_eq.mpr (added line inside)
        rw [foreign, List.nil_append, all]
        exact ⟨.refl _, List.pairwise_map.mpr (numbered.placed.imp And.right)⟩

/-- **Tables that have grown from empty ones hold items and orders.** -/
theorem Grown.holds (grown : Tables.empty.Grown tables) : ∃ items orders, tables.Holds items orders := by
  induction grown with
  | refl => exact ⟨[], [], holds_empty⟩
  | tail earlier step ih =>
    obtain ⟨items, orders, holds⟩ := ih
    obtain ⟨rows, addition, rfl⟩ := step
    cases addition with
    | account account tidy fits =>
      refine ⟨items, orders, { holds with itemRows := ?_, orderRows := ?_, lines := ?_ }⟩
      · exact (List.append_nil _).trans holds.itemRows
      · exact (List.append_nil _).trans holds.orderRows
      · obtain ⟨lines, lineRows, own⟩ := holds.lines
        exact ⟨lines, (List.append_nil _).trans lineRows, own⟩
    | item item fits =>
      refine ⟨items ++ [item.stored], orders, { holds with itemRows := ?_, orderRows := ?_, lines := ?_ }⟩
      · rw [items_append, holds.itemRows, List.map_append]
        exact congrArg (fun row => _ ++ [row]) item.kept_eq
      · exact (List.append_nil _).trans holds.orderRows
      · obtain ⟨lines, lineRows, own⟩ := holds.lines
        exact ⟨lines, (List.append_nil _).trans lineRows, own⟩
    | order order numbered fits =>
      exact ⟨items, _, holds.add_order (sound_empty.grown earlier) numbered fits⟩

end Tables

/-! ### Windows -/

theorem PageRequest.map_window {α β : Type} (request : PageRequest) (f : α → β) (records : List α) :
    request.window (records.map f) = (request.window records).map f := by
  unfold window
  cases request.limit with
  | none => exact List.map_drop.symm
  | some limit =>
    dsimp only
    rw [← List.map_drop, ← List.map_take]

theorem PageRequest.sublist_window {α : Type} (request : PageRequest) (records : List α) :
    (request.window records).Sublist records := by
  unfold window
  cases request.limit with
  | none => exact List.drop_sublist _ _
  | some limit => exact (List.take_sublist _ _).trans (List.drop_sublist _ _)

/-- The values of a window cut that window. -/
theorem cutWindow_eq {request : PageRequest} {window : Window} {value : Nat → Cell} {rows : List Row}
    (limit : value window.limit = .optional (fun limit : Nat => .integer limit) request.limit)
    (offset : value window.offset = .integer request.offset) :
    cutWindow (some window) value rows = request.window rows := by
  unfold cutWindow PageRequest.window
  dsimp only
  rw [limit, offset]
  cases request.limit with
  | none => rfl
  | some limit => rfl

section Selections

variable {α : Type} {row : α → Row} {records : List α} {passes : α → Bool} {tables : Tables}
  {table : Table} {filter : Filter} {keys : List SortKey} {values : List Cell}

/-- The rows of the records that pass are those that the filter lets through. -/
theorem filter_rows {value : Nat → Cell} (held : tables.rows table = records.map row)
    (same : ∀ record ∈ records, filter.holds value (row record) = passes record) :
    (tables.rows table).filter (filter.holds value) = (records.filter passes).map row := by
  rw [held, List.filter_map]
  exact congrArg (List.map row) (List.filter_congr same)

/-- A selection finds the window of the records that pass, arranged by the keys. -/
theorem rowsOn_select [Collation] {request : PageRequest} {window : Window}
    (held : tables.rows table = records.map row) (same : ∀ record ∈ records, filter.holds
      (Statement.value ⟨.select table filter (SortOrder.terms ⟨keys⟩) (some window), values⟩)
        (row record) = passes record)
    (limit : Statement.value ⟨.select table filter (SortOrder.terms ⟨keys⟩) (some window), values⟩
      window.limit = .optional (fun limit : Nat => .integer limit) request.limit)
    (offset : Statement.value ⟨.select table filter (SortOrder.terms ⟨keys⟩) (some window), values⟩
      window.offset = .integer request.offset) :
    Statement.rowsOn ⟨.select table filter (SortOrder.terms ⟨keys⟩) (some window), values⟩ tables =
      (request.window ((records.filter passes).mergeSort (SortKey.notAfter keys row))).map row := by
  change select _ _ _ _ _ _ = _
  rw [select, filter_rows held same, SortKey.sortRows_map, cutWindow_eq limit offset,
    PageRequest.map_window]

/-- A count is the number of the records that pass. -/
theorem readFirst_count [Collation] (held : tables.rows table = records.map row)
    (same : ∀ record ∈ records, filter.holds (Statement.value ⟨.count table filter, values⟩)
      (row record) = passes record) :
    Row.readFirst (Statement.rowsOn ⟨.count table filter, values⟩ tables) Row.integer? =
      .ok ((records.filter passes).length : Int) := by
  change Row.readFirst [[("count", .integer _)]] Row.integer? = _
  rw [filter_rows held same, List.length_map]
  rfl

end Selections

end Storefront
