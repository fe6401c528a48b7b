/-
**Orders are read with all of their lines.**

An order that is found is one of the tables, and every row of the lines that names it is read as one
of its lines.  As an order that is in the tables gets no further lines, it stays complete when the
tables grow.

Main statements:

* `OrderStore.complete_of_findOn`, `OrderStore.complete_of_searchOn`: what is read is complete;
* `Order.CompleteIn.grown`: a complete order stays complete.
-/

import Mathlib.Data.List.Forall2
import Storefront.Proofs.Database.Sound
import Storefront.Proofs.Order.Reading

namespace Storefront

/-! ### Rows that are read -/

namespace Row

variable {α : Type} {read : Row → Except DriverError α} {rows : List Row} {values : List α}

/-- All records are read, in order. -/
theorem forall₂_of_readAll (all : readAll read rows = .ok values) :
    List.Forall₂ (fun row value => read row = .ok value) rows values := by
  induction rows generalizing values with
  | nil =>
    cases all
    exact .nil
  | cons row rest ih =>
    obtain ⟨value, first, all⟩ := bind_eq_ok_iff.mp all
    obtain ⟨tail, others, all⟩ := bind_eq_ok_iff.mp all
    cases all
    exact .cons first (ih others)

theorem exists_of_readAll (all : readAll read rows = .ok values) {row : Row} (member : row ∈ rows) :
    ∃ value ∈ values, read row = .ok value :=
  exists_of_forall₂ (forall₂_of_readAll all) member

theorem exists_row_of_readAll (all : readAll read rows = .ok values) {value : α}
    (member : value ∈ values) :
    ∃ row ∈ rows, read row = .ok value :=
  exists_of_forall₂ (forall₂_of_readAll all).flip member

/-- What rows and records agree in, they agree in one by one. -/
theorem map_eq_of_readAll {β : Type} {ofRow : Row → β} {ofValue : α → β}
    (all : readAll read rows = .ok values)
    (agree : ∀ row value, read row = .ok value → ofRow row = ofValue value) :
    rows.map ofRow = values.map ofValue := by
  have paired := forall₂_of_readAll all
  clear all
  induction paired with
  | nil => rfl
  | cons first _ ih => rw [List.map_cons, List.map_cons, ih, agree _ _ first]

end Row

/-- A line has the order of its row. -/
theorem OrderLine.get_orderId_of_ofRow {row : Row} {line : OrderLine}
    (read : ofRow row = .ok line) :
    row.get "order_id" = .uuid line.orderId := by
  obtain ⟨id, _, read⟩ := bind_eq_ok_iff.mp read
  obtain ⟨orderId, found, read⟩ := bind_eq_ok_iff.mp read
  obtain ⟨itemId, _, read⟩ := bind_eq_ok_iff.mp read
  obtain ⟨quantity, _, read⟩ := bind_eq_ok_iff.mp read
  obtain ⟨position, _, read⟩ := bind_eq_ok_iff.mp read
  obtain ⟨createdAt, _, read⟩ := bind_eq_ok_iff.mp read
  obtain ⟨updatedAt, _, read⟩ := bind_eq_ok_iff.mp read
  cases read
  exact Row.get_of_read_uuid found

/-! ### Complete orders -/

/-- The order is in the tables, and every line that they hold for it is one of its lines. -/
structure Order.CompleteIn (order : Order) (tables : Tables) : Prop where
  there : ∃ row ∈ tables.orders, row.get "id" = .uuid order.id
  lines : ∀ row ∈ tables.orderItems, row.get "order_id" = .uuid order.id →
    ∃ line ∈ order.items, OrderLine.ofRow row = .ok line

/-- A complete order stays complete. -/
theorem Order.CompleteIn.grown {order : Order} {earlier later : Tables}
    (complete : order.CompleteIn earlier) (grown : earlier.Grown later) :
    order.CompleteIn later where
  there := by
    obtain ⟨row, member, named⟩ := complete.there
    have still : row ∈ later.rows .orders := grown.mem_rows member
    exact ⟨row, still, named⟩
  lines row member named := by
    have own : row ∈ later.orderItems.filter fun row => row.get "order_id" == .uuid order.id :=
      List.mem_filter.mpr ⟨member, by rw [named]; exact beq_self_eq_true _⟩
    rw [grown.lines_eq complete.there] at own
    exact complete.lines row (List.mem_filter.mp own).1 named

variable [Collation]

namespace OrderStore

/-- The rows of the lines of some orders are among those that are asked for. -/
theorem mem_rowsOn_lines {tables : Tables} {ids : List Uuid} {id : Uuid} {row : Row}
    (member : row ∈ tables.orderItems) (named : row.get "order_id" = .uuid id) (asked : id ∈ ids) :
    row ∈ Statement.rowsOn ⟨linesQuery, [.uuids ids]⟩ tables := by
  change row ∈ sortRows _ _
  unfold sortRows
  rw [List.mem_mergeSort, List.mem_filter]
  refine ⟨member, ?_⟩
  rw [Filter.holds, named, show Statement.value ⟨linesQuery, [.uuids ids]⟩ 1 = .uuids ids from rfl]
  exact List.contains_iff_mem.mpr asked

/-- Distinct orders that get their lines are complete. -/
theorem complete_of_withLinesOn {orders completed : List Order} {tables : Tables}
    (distinct : (orders.map Order.id).Nodup)
    (there : ∀ order ∈ orders, ∃ row ∈ tables.orders, row.get "id" = .uuid order.id)
    (found : withLinesOn orders tables = .ok completed) :
    ∀ order ∈ completed, order.CompleteIn tables := by
  unfold withLinesOn at found
  split at found
  · next empty =>
    cases found
    rw [List.isEmpty_iff.mp empty]
    exact fun _ member => nomatch member
  · obtain ⟨lines, read, found⟩ := bind_eq_ok_iff.mp found
    cases found
    rw [Order.attach_items distinct]
    intro order member
    obtain ⟨bare, inside, rfl⟩ := List.mem_map.mp member
    refine ⟨there bare inside, fun row listed named => ?_⟩
    have asked : bare.id ∈ orders.map Order.id := List.mem_map_of_mem inside
    obtain ⟨line, own, same⟩ := Row.exists_of_readAll read (mem_rowsOn_lines listed named asked)
    refine ⟨line, List.mem_filter.mpr ⟨own, ?_⟩, same⟩
    have equal : Cell.uuid line.orderId = .uuid bare.id :=
      (OrderLine.get_orderId_of_ofRow same).symm.trans named
    exact beq_iff_eq.mpr (Cell.uuid.inj equal)

/-- An order that is found is complete. -/
theorem complete_of_findOn {id : Uuid} {tables : Tables} {order : Order}
    (found : findOn id tables = .ok order) :
    order.CompleteIn tables := by
  unfold findOn at found
  split at found
  · cases found
  · next row others rows =>
    obtain ⟨bare, read, found⟩ := bind_eq_ok_iff.mp (mapError_eq_ok_iff.mp found)
    obtain ⟨completed, attached, found⟩ := bind_eq_ok_iff.mp found
    have listed : row ∈ Statement.rowsOn
      ⟨.select .orders (.equals "id" 1) [] none, [.uuid id]⟩ tables := by
      rw [rows]
      exact List.mem_cons_self
    have single : ([bare].map Order.id).Nodup := List.pairwise_singleton _ _
    have complete := complete_of_withLinesOn single (fun other member => by
      rw [List.mem_singleton.mp member]
      exact ⟨row, mem_rows_of_select listed, Order.get_id_of_ofRow read⟩) attached
    obtain ⟨lines, _, attached⟩ := bind_eq_ok_iff.mp attached
    cases attached
    cases found
    exact complete _ List.mem_cons_self

/-- Orders that a selection finds in distinct rows are distinct. -/
theorem nodup_of_readAll {filter : Filter} {terms : List OrderTerm} {window : Option Window}
    {values : List Cell} {tables : Tables} {orders : List Order} (distinct : tables.Distinct)
    (read : Row.readAll Order.ofRow
      (Statement.rowsOn ⟨.select .orders filter terms window, values⟩ tables) = .ok orders) :
    (orders.map Order.id).Nodup := by
  have rows : ((Statement.rowsOn ⟨.select .orders filter terms window, values⟩ tables).map
      fun row => row.get "id").Nodup := nodup_select (distinct .orders)
  have same : List.map (fun row => Row.get row "id") _ = orders.map (Cell.uuid ∘ Order.id) :=
    Row.map_eq_of_readAll read fun row order => Order.get_id_of_ofRow
  rw [same, ← List.map_map] at rows
  exact List.Pairwise.of_map Cell.uuid (fun _ _ differ same => differ (congrArg _ same)) rows

/-- The orders of a page that is found are complete. -/
theorem complete_of_listOn {accountId : Uuid} {request : PageRequest} {terms : List OrderTerm}
    {tables : Tables} {page : Page Order} (distinct : tables.Distinct)
    (found : listOn accountId request terms tables = .ok page) :
    ∀ order ∈ page.elements, order.CompleteIn tables := by
  obtain ⟨total, _, found⟩ := bind_eq_ok_iff.mp (mapError_eq_ok_iff.mp found)
  split at found
  · cases found
    exact fun _ member => nomatch member
  · obtain ⟨orders, read, found⟩ := bind_eq_ok_iff.mp found
    obtain ⟨completed, attached, found⟩ := bind_eq_ok_iff.mp found
    cases found
    refine complete_of_withLinesOn (nodup_of_readAll distinct read) ?_ attached
    intro order member
    obtain ⟨row, listed, same⟩ := Row.exists_row_of_readAll read member
    exact ⟨row, mem_rows_of_select listed, Order.get_id_of_ofRow same⟩

/-- The orders of a page that is found by a call are complete. -/
theorem complete_of_searchOn {accountId : Uuid} {request : PageRequest} {tables : Tables}
    {page : Page Order} (distinct : tables.Distinct)
    (found : searchOn accountId request tables = .ok page) :
    ∀ order ∈ page.elements, order.CompleteIn tables := by
  unfold searchOn at found
  split at found
  · cases found
  · exact complete_of_listOn distinct found

end OrderStore

end Storefront
