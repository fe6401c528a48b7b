/-
**Stored orders.**

How orders and their lines are kept in the database, and the operations on them.  `OrderStore` is what the
rest of the program knows of them; `OrderStore.inDatabase` keeps them in the tables `orders` and
`order_items`.

An order is made by one program at a time, in one transaction: the account is looked up, then the order
and all of its lines are added.  A page of orders is counted, cut and completed with the lines in one
transaction whose statements all see the same state.

Main statements:

* `ofRow_row`, `OrderLine.ofRow_row`: rows are read back as what they hold;
* `attach_items`: with distinct identifiers every order gets exactly its own lines.
-/

import Storefront.Item.Store
import Storefront.Order.Basic

namespace Storefront

/-! ### Rows -/

/-- The cells of an order without its lines, in the order of the columns. -/
def Order.cells (order : Order) : List Cell :=
  [.uuid order.id, .uuid order.accountId, .instant order.createdAt, .instant order.updatedAt]

/-- Reads an order, which has no lines yet. -/
def Order.ofRow (row : Row) : Except DriverError Order := do
  return {
    id := ← row.read "id" Row.uuid?
    accountId := ← row.read "account_id" Row.uuid?
    createdAt := ← row.read "created_at" Row.instant?
    updatedAt := ← row.read "updated_at" Row.instant? }

/-- The row of an order, as it is sent. -/
def Order.row (order : Order) : Row := Table.orders.columns.zip order.cells

/-- The cells of a line, in the order of the columns. -/
def OrderLine.cells (line : OrderLine) : List Cell :=
  [.uuid line.id, .uuid line.orderId, .uuid line.itemId, .integer line.quantity,
    .integer line.position, .instant line.createdAt, .instant line.updatedAt]

/-- The line that a row holds. The first column that cannot be read is the error. -/
def OrderLine.ofRow (row : Row) : Except DriverError OrderLine := do
  return {
    id := ← row.read "id" Row.uuid?
    orderId := ← row.read "order_id" Row.uuid?
    itemId := ← row.read "item_id" Row.uuid?
    quantity := ← row.read "quantity" Row.integer?
    position := ← row.read "position" Row.integer?
    createdAt := ← row.read "created_at" Row.instant?
    updatedAt := ← row.read "updated_at" Row.instant? }

/-- The row of a line, as it is sent. -/
def OrderLine.row (line : OrderLine) : Row := Table.orderItems.columns.zip line.cells

/-- The row of an order is read back as the order without its lines. -/
theorem Order.ofRow_row (order : Order) : Order.ofRow order.row = .ok { order with items := [] } := by
  simp [Order.ofRow, Order.row, Order.cells, Table.columns, Row.read, List.lookup_cons, Row.uuid?,
    Row.instant?, bind, Except.bind, pure, Except.pure]

theorem OrderLine.ofRow_row (line : OrderLine) : OrderLine.ofRow line.row = .ok line := by
  simp [OrderLine.ofRow, OrderLine.row, OrderLine.cells, Table.columns, Row.read, List.lookup_cons,
    Row.uuid?, Row.integer?, Row.instant?, bind, Except.bind, pure, Except.pure]

/-! ### Orders and their lines -/

/-- Gives lines to the orders that they belong to; lines that an order has taken are gone. -/
def Order.attach (lines : List OrderLine) : List Order → List Order
  | [] => []
  | order :: rest =>
    { order with items := lines.filter fun line => line.orderId == order.id } ::
      attach (lines.filter fun line => !(line.orderId == order.id)) rest

/-- With distinct identifiers every order gets exactly its own lines. -/
theorem Order.attach_items {lines : List OrderLine} {orders : List Order}
    (distinct : (orders.map Order.id).Nodup) :
    attach lines orders = orders.map fun order =>
      { order with items := lines.filter fun line => line.orderId == order.id } := by
  induction orders generalizing lines with
  | nil => rfl
  | cons order rest ih =>
    obtain ⟨absent, distinct⟩ := List.nodup_cons.mp distinct
    rw [attach, ih distinct, List.map_cons]
    congr 1
    apply List.map_congr_left
    intro other member
    have different : other.id ≠ order.id := by
      intro same
      exact absent (same ▸ List.mem_map_of_mem member)
    congr 1
    rw [List.filter_filter]
    apply List.filter_congr
    intro line _
    by_cases own : line.orderId = other.id
    · have : ¬ line.orderId = order.id := by rw [own]; exact different
      simp [own, different]
    · simp [own]

/-- The lines of an order to be made, in order: empty ones are skipped before positions are given. -/
def Order.numberLines (input : NewOrder) : List (NewLine × Int) :=
  (input.items.filterMap fun line => line).mapIdx fun position line => (line, (position : Int))

/-! ### Operations -/

/-- The operations on stored orders. -/
structure OrderStore (m : Type → Type) where
  byId : Uuid → m (Except StoreError Order)
  search : Uuid → PageRequest → m (Except StoreError (Page Order))
  create : Option NewOrder → m (Except StoreError Order)

namespace OrderStore

/-- The properties by which orders may be sorted. -/
def sortable : List String := Table.orders.columns

/-- The query for the lines of several orders. -/
def linesQuery : Query :=
  .select .orderItems (.among "order_id" 1) [⟨"order_id", none⟩, ⟨"position", none⟩] none

/-- Completes orders with their lines, all at once; nothing is asked if there are no orders. -/
def withLines (orders : List Order) : Operation (List Order) :=
  if orders.isEmpty then return orders
  else do
    let rows ← Operation.send .ofDriver linesQuery [.uuids (orders.map Order.id)]
    let lines ← Operation.known .ofDriver (Row.readAll OrderLine.ofRow rows)
    return Order.attach lines orders

/-- The order with an identifier, with its lines. -/
def find (id : Uuid) : Operation Order := do
  Operation.connect .ofDriver
  let rows ← Operation.send .ofDriver (.select .orders (.equals "id" 1) [] none) [.uuid id]
  let order ← Operation.firstRow .ofDriver (.notFound "Order" id.text) Order.ofRow rows
  let completed ← withLines [order]
  return completed.headD order

/-- Counts the orders of an account and cuts the window out of them. -/
def list (accountId : Uuid) (request : PageRequest) (terms : List OrderTerm) :
    Operation (Page Order) := do
  Operation.beginSnapshot .ofDriver
  let counted ← Operation.send .ofDriver (.count .orders (.equals "account_id" 1)) [.uuid accountId]
  let total ← Operation.known .ofDriver (Row.readFirst counted Row.integer?)
  if total = 0 then
    Operation.commit .ofDriver
    return .empty
  else
    let rows ← Operation.send .ofDriver
      (.select .orders (.equals "account_id" 1) terms (some ⟨2, 3⟩))
      (.uuid accountId :: request.windowCells)
    let orders ← Operation.known .ofDriver (Row.readAll Order.ofRow rows)
    let completed ← withLines orders
    Operation.commit .ofDriver
    return .ofWindow completed total request.size

/-- Makes the lines of an order, each with an identifier of its own. -/
def makeLines (orderId : Uuid) : List (NewLine × Int) → Operation (List OrderLine)
  | [] => return []
  | (line, position) :: rest => do
    let now ← Operation.readClock
    let id ← Operation.freshId
    let others ← makeLines orderId rest
    return OrderLine.register orderId line position id now :: others

/-- Adds the lines of an order in one statement; nothing is sent if there are none. -/
def addLines (lines : List OrderLine) : Operation Unit :=
  if lines.isEmpty then return ()
  else do
    let added := Statement.insert .orderItems (lines.map OrderLine.cells) false
    let _ ← Operation.send .transaction added.query added.values
    return ()

/-- Adds an order with its lines, when its turn has come. -/
def add (input : NewOrder) : Operation Order := do
  Operation.takeTurn
  let now ← Operation.readClock
  let id ← Operation.freshId
  let order := Order.register input.accountId id now
  Operation.connect .transaction
  let _ ← Operation.send .transaction .begin []
  let found ← Operation.send .transaction (.exists .accounts (.equals "id" 1)) [.uuid order.accountId]
  let known ← Operation.known .transaction (Row.readFirst found Row.truth?)
  if known then
    let added := Statement.insert .orders [order.cells] false
    let _ ← Operation.send .transaction added.query added.values
    let lines ← makeLines order.id (Order.numberLines input)
    addLines lines
    Operation.commit .transaction
    return { order with items := lines }
  else
    let _ ← Operation.send .transaction .rollback []
    throw (.notFound "Account" order.accountId.text)

/-- Orders in the database, with a limit for each operation. A page is refused at once if it is to be
sorted by something else than the columns. -/
def inDatabase (limit : Option Duration) : OrderStore Action where
  byId id := Operation.within limit (find id)
  search accountId request :=
    match request.sort.check sortable with
    | .error cause => .answered (.error (.rejected (.sort cause)))
    | .ok sort => Operation.within limit (list accountId request sort.terms)
  create
    | none => .answered (.error .nilEntity)
    | some input => Operation.within limit (add input)

end OrderStore

end Storefront
