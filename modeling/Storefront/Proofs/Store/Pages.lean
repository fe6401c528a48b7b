/-
**Pages of what the tables hold.**

A page of items and a page of the orders of an account are cut out of the records that match,
arranged by the keys.  For an account without orders the server leaves early; `OrderStore.listWhole`
is the operation without that exit, and both give the same page.

Main statements:

* `ItemStore.listOn_of_holds`, `OrderStore.listOn_of_holds`: the pages of tables that hold records;
* `OrderStore.withLinesOn_eq`: orders get their lines, in the order of the positions;
* `OrderStore.list_solo_eq`: the early exit makes no difference.
-/

import Mathlib.Data.List.Nodup
import Storefront.Proofs.Store.Holding

namespace Storefront

variable {tables : Tables} {items : List Item} {orders : List Order} {request : PageRequest}
  {keys : List SortKey}

/-! ### Items -/

/-- A page of the items that the tables hold. -/
theorem ItemStore.listOn_of_holds [Collation] (holds : tables.Holds items orders) :
    listOn request (SortOrder.terms ⟨keys⟩) tables = .ok (.ofWindow
      (request.window (items.mergeSort (SortKey.notAfter keys Item.row))) items.length request.size) := by
  have every : (items.filter fun _ => true) = items := List.filter_eq_self.mpr fun _ _ => rfl
  have passes (statement : Statement) : ∀ item ∈ items,
      Filter.all.holds statement.value item.row = true := fun _ _ => rfl
  have total : Row.readFirst (Statement.rowsOn ⟨.count .items .all, []⟩ tables) Row.integer? = _ :=
    readFirst_count holds.itemRows (passes _)
  have rows : Statement.rowsOn ⟨.select .items .all (SortOrder.terms ⟨keys⟩) (some ⟨1, 2⟩),
      request.windowCells⟩ tables = _ :=
    rowsOn_select holds.itemRows (passes _) rfl rfl
  rw [every] at total rows
  rw [listOn, total, rows, Row.readAll_map Item.ofRow_row]
  rfl

/-! ### Lines -/

namespace OrderStore

/-- The keys by which lines are sorted when they are asked for. -/
def lineKeys : List SortKey := [⟨"order_id", {}⟩, ⟨"position", {}⟩]

/-- The lines of one order that are in their order have ascending positions. -/
theorem position_le_of_notAfter [Collation] {first second : OrderLine}
    (same : first.orderId = second.orderId)
    (ordered : SortKey.notAfter lineKeys OrderLine.row first second = true) :
    first.position ≤ second.position := by
  have orders : Cell.order {} (.uuid first.orderId) (.uuid second.orderId) = .eq := by
    rw [same]
    exact Cell.order_refl _ _
  change ((Cell.order {} (.uuid first.orderId) (.uuid second.orderId)).then
    ((Cell.order {} (.integer first.position) (.integer second.position)).then .eq)).isLE = true at ordered
  rw [orders] at ordered
  by_contra more
  have greater : Cell.order {} (.integer first.position) (.integer second.position) = .gt :=
    Cell.Keyed.integer.more.mpr (not_le.mp more)
  rw [greater] at ordered
  cases ordered

/-- An order without its lines, as it is read from its row. -/
def bare (order : Order) : Order := { order with items := [] }

/-- Lines that are sorted and belong to the order are its lines. -/
theorem filter_sorted_eq [Collation] {lines : List OrderLine} {order : Order}
    (own : order.items.Perm (lines.filter fun line => line.orderId == order.id))
    (placed : order.items.Pairwise fun first second => first.position < second.position)
    {asked : OrderLine → Bool} (among : ∀ line ∈ lines, line.orderId = order.id → asked line = true) :
    (((lines.filter asked).mergeSort (SortKey.notAfter lineKeys OrderLine.row)).filter
      fun line => line.orderId == order.id) = order.items := by
  have permuted : (((lines.filter asked).mergeSort (SortKey.notAfter lineKeys OrderLine.row)).filter
      fun line => line.orderId == order.id).Perm order.items := by
    have asking : ((lines.filter asked).filter fun line => line.orderId == order.id) =
        lines.filter fun line => line.orderId == order.id := by
      rw [List.filter_filter]
      refine List.filter_congr fun line member => ?_
      by_cases named : line.orderId = order.id
      · simp [named, among line member named]
      · simp [named]
    exact ((List.mergeSort_perm _ _).filter _).trans (asking ▸ own.symm)
  have sorted : (((lines.filter asked).mergeSort (SortKey.notAfter lineKeys OrderLine.row)).filter
      fun line => line.orderId == order.id).Pairwise
        fun first second => first.position ≤ second.position := by
    have pairs : ((lines.filter asked).mergeSort (SortKey.notAfter lineKeys OrderLine.row)).Pairwise
        fun first second => SortKey.notAfter lineKeys OrderLine.row first second = true :=
      List.pairwise_mergeSort (SortKey.notAfter_trans OrderLine.comparable_row)
        (SortKey.notAfter_total OrderLine.comparable_row) _
    refine (pairs.filter _).imp_of_mem fun {first second} member other ordered => ?_
    have same : first.orderId = second.orderId :=
      (beq_iff_eq.mp (List.mem_filter.mp member).2).trans
        (beq_iff_eq.mp (List.mem_filter.mp other).2).symm
    exact position_le_of_notAfter same ordered
  have positions : (order.items.map OrderLine.position).Nodup := by
    rw [List.nodup_iff_pairwise_ne, List.pairwise_map]
    exact placed.imp fun less => less.ne
  refine List.Perm.eq_of_pairwise ?_ sorted (placed.imp fun less => less.le) permuted
  intro first second member other forth back
  exact List.inj_on_of_nodup_map positions (permuted.mem_iff.mp member) other (le_antisymm forth back)

/-- What lines orders have had does not matter when they get their lines. -/
theorem withLinesOn_bare [Collation] (orders : List Order) :
    withLinesOn (orders.map bare) tables = withLinesOn orders tables := by
  have attached : ∀ lines, Order.attach lines (orders.map bare) = Order.attach lines orders := by
    induction orders with
    | nil => exact fun _ => rfl
    | cons order rest ih =>
      intro lines
      rw [List.map_cons, Order.attach, Order.attach, ih]
      rfl
  have ids : (orders.map bare).map Order.id = orders.map Order.id := List.map_map
  cases orders with
  | nil => rfl
  | cons order rest =>
    rw [withLinesOn, withLinesOn, ids]
    simp only [attached]
    rfl

/-- Orders with distinct identifiers get the lines that name them, in the order of the positions. -/
theorem withLinesOn_eq [Collation] {lines : List OrderLine}
    (held : tables.orderItems = lines.map OrderLine.row) {chosen : List Order}
    (distinct : (chosen.map Order.id).Nodup)
    (own : ∀ order ∈ chosen, order.items.Perm (lines.filter fun line => line.orderId == order.id) ∧
      order.items.Pairwise fun first second => first.position < second.position) :
    withLinesOn (chosen.map bare) tables = .ok chosen := by
  cases chosen with
  | nil => rfl
  | cons first rest =>
    generalize whole : first :: rest = chosen at own distinct
    have ids : (chosen.map bare).map Order.id = chosen.map Order.id := List.map_map
    have lineRows : tables.rows .orderItems = lines.map OrderLine.row := held
    have asked : ∀ line ∈ lines, (Filter.among "order_id" 1).holds
        (Statement.value ⟨linesQuery, [.uuids (chosen.map Order.id)]⟩) line.row =
          (chosen.map Order.id).contains line.orderId := fun _ _ => rfl
    have rows : Statement.rowsOn ⟨linesQuery, [.uuids (chosen.map Order.id)]⟩ tables =
        ((lines.filter fun line => (chosen.map Order.id).contains line.orderId).mergeSort
          (SortKey.notAfter lineKeys OrderLine.row)).map OrderLine.row := by
      rw [← SortKey.sortRows_map, ← filter_rows lineRows asked]
      rfl
    have filled : (chosen.map bare).isEmpty = false := by rw [← whole]; rfl
    rw [withLinesOn, filled, if_neg Bool.false_ne_true, ids, rows, Row.readAll_map OrderLine.ofRow_row]
    change Except.ok (Order.attach _ _) = _
    rw [Order.attach_items (ids ▸ distinct), List.map_map]
    refine congrArg Except.ok ((List.map_congr_left fun order member => ?_).trans (List.map_id chosen))
    obtain ⟨own, placed⟩ := own order member
    have among : ∀ line ∈ lines, line.orderId = order.id →
        (chosen.map Order.id).contains line.orderId = true := by
      intro line _ named
      rw [named]
      exact List.contains_iff_mem.mpr (List.mem_map_of_mem member)
    exact congrArg (fun items => ({ order with items := items } : Order))
      (filter_sorted_eq own placed among)

/-- Orders that the tables hold get their lines. -/
theorem withLinesOn_of_holds [Collation] (holds : tables.Holds items orders) {chosen : List Order}
    (inside : ∀ order ∈ chosen, order ∈ orders) (distinct : (chosen.map Order.id).Nodup) :
    withLinesOn (chosen.map bare) tables = .ok chosen := by
  obtain ⟨lines, lineRows, own⟩ := holds.lines
  exact withLinesOn_eq lineRows distinct fun order member => own order (inside order member)

/-! ### The early exit -/

/-- The operation that gives a page without the early exit. -/
def listWhole (accountId : Uuid) (request : PageRequest) (terms : List OrderTerm) :
    Operation (Page Order) := do
  Operation.beginSnapshot .ofDriver
  let counted ← Operation.send .ofDriver (.count .orders (.equals "account_id" 1)) [.uuid accountId]
  let total ← Operation.known .ofDriver (Row.readFirst counted Row.integer?)
  cut accountId request terms total

/-- The rows of the orders of an account. -/
def rowsOf (accountId : Uuid) (tables : Tables) : List Row :=
  tables.orders.filter fun row => row.get "account_id" == .uuid accountId

theorem filter_eq_rowsOf {query : Query} {accountId : Uuid} {values : List Cell} :
    (tables.rows .orders).filter ((Filter.equals "account_id" 1).holds
      (Statement.value ⟨query, .uuid accountId :: values⟩)) = rowsOf accountId tables :=
  List.filter_congr fun _ _ => holds_equals rfl

variable [Collation]

theorem readFirst_total {accountId : Uuid} :
    Row.readFirst (Statement.rowsOn ⟨.count .orders (.equals "account_id" 1), [.uuid accountId]⟩
      tables) Row.integer? = .ok ((rowsOf accountId tables).length : Int) := by
  rw [← filter_eq_rowsOf]
  rfl

section EarlyExit

variable {id : Nat → Uuid} {clock : Nat → Int} {accountId : Uuid} {terms : List OrderTerm}

/-- Undisturbed, the page without the early exit is what the tables hold. -/
theorem listWhole_solo (solo : Solo) :
    ((listWhole accountId request terms).run.solo id clock solo).1 =
      (cutOn accountId request terms (rowsOf accountId solo.tables).length solo.tables).mapError
        .ofDriver := by
  unfold listWhole
  obtain ⟨begun, begins, same, looking⟩ := Operation.solo_beginSnapshot
  rw [Operation.solo_bind, begins]
  dsimp only
  obtain ⟨counted, counts, same', looking⟩ :=
    Operation.solo_look (.count .orders (.equals "account_id" 1)) [.uuid accountId] looking rfl rfl
  rw [Operation.solo_bind, counts]
  dsimp only
  rw [Operation.solo_bind, Operation.solo_known, same, readFirst_total]
  dsimp only [mapError_ok]
  rw [← same, ← same']
  exact cut_solo accountId request terms _ looking

/-- There is nothing to cut for an account without orders. -/
theorem cutOn_of_none (empty : rowsOf accountId tables = []) :
    cutOn accountId request terms 0 tables = .ok .empty := by
  have rows : Statement.rowsOn ⟨.select .orders (.equals "account_id" 1) terms (some ⟨2, 3⟩),
      .uuid accountId :: request.windowCells⟩ tables = [] := by
    change select _ _ _ _ _ _ = []
    rw [select, filter_eq_rowsOf, empty, sortRows, List.mergeSort_nil]
    exact List.sublist_nil.mp (cutWindow_sublist _ _ _)
  rw [cutOn, rows]
  rfl

/-- The page of an account is the same with and without the early exit. -/
theorem listOn_eq_cutOn :
    listOn accountId request terms tables =
      (cutOn accountId request terms (rowsOf accountId tables).length tables).mapError .ofDriver := by
  rw [listOn, readFirst_total]
  change Except.mapError _ (if _ then _ else _) = _
  split
  · next zero =>
    have nothing : rowsOf accountId tables = [] := List.length_eq_zero_iff.mp (Int.ofNat_eq_zero.mp zero)
    rw [nothing]
    exact (congrArg (Except.mapError StoreError.ofDriver) (cutOn_of_none nothing)).symm
  · rfl

/-- **The early exit makes no difference.** -/
theorem list_solo_eq (solo : Solo) :
    ((list accountId request terms).run.solo id clock solo).1 =
      ((listWhole accountId request terms).run.solo id clock solo).1 := by
  rw [list_solo, listWhole_solo, listOn_eq_cutOn]

end EarlyExit

/-! ### Orders -/

/-- A page of the orders of an account that the tables hold. -/
theorem listOn_of_holds (holds : tables.Holds items orders) (accountId : Uuid) :
    listOn accountId request (SortOrder.terms ⟨keys⟩) tables = .ok (.ofWindow
      (request.window ((orders.filter fun order => order.accountId == accountId).mergeSort
        (SortKey.notAfter keys Order.row)))
      (orders.filter fun order => order.accountId == accountId).length request.size) := by
  have passes (query : Query) (values : List Cell) : ∀ order ∈ orders,
      (Filter.equals "account_id" 1).holds (Statement.value ⟨query, .uuid accountId :: values⟩)
        order.row = (order.accountId == accountId) := by
    intro order _
    rw [holds_equals rfl, Bool.eq_iff_iff, beq_iff_eq, beq_iff_eq]
    exact Cell.uuid.injEq _ _ ▸ Iff.rfl
  have rows : Statement.rowsOn ⟨.select .orders (.equals "account_id" 1) (SortOrder.terms ⟨keys⟩)
      (some ⟨2, 3⟩), .uuid accountId :: request.windowCells⟩ tables = _ :=
    rowsOn_select holds.orderRows (passes _ _) rfl rfl
  have total : (rowsOf accountId tables).length = _ := congrArg List.length
    (filter_eq_rowsOf.symm.trans (filter_rows holds.orderRows (passes .begin [])))
  rw [List.length_map] at total
  rw [listOn_eq_cutOn, cutOn, rows, total]
  generalize (orders.filter fun order => order.accountId == accountId).length = size
  have permuted := List.mergeSort_perm (orders.filter fun order => order.accountId == accountId)
    (SortKey.notAfter keys Order.row)
  have chosen := request.sublist_window ((orders.filter fun order =>
    order.accountId == accountId).mergeSort (SortKey.notAfter keys Order.row))
  generalize request.window _ = window at chosen ⊢
  have inside : ∀ order ∈ window, order ∈ orders := fun order member =>
    (List.mem_filter.mp (permuted.mem_iff.mp (chosen.subset member))).1
  have distinct : (window.map Order.id).Nodup :=
    (chosen.map Order.id).nodup ((permuted.map Order.id).nodup_iff.mpr
      ((List.filter_sublist.map Order.id).nodup holds.distinct))
  rw [Row.readAll_rows Order.ofRow_row]
  change Except.mapError _ (withLinesOn (window.map bare) tables >>= _) = _
  rw [withLinesOn_of_holds holds inside distinct]
  rfl

end OrderStore

end Storefront
