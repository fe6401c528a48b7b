/-
**Stored items.**

How items are kept in the database, and the operations on them.  `ItemStore` is what the rest of the program
knows of them; `ItemStore.inDatabase` keeps them in the table `items`.

A page is counted and cut in one transaction whose statements all see the same state.

Main statement: `ofRow_row` — the row of an item is read back as the item.
-/

import Storefront.Database.Field
import Storefront.Database.Server
import Storefront.Item.Basic
import Storefront.Paging.Page
import Storefront.Store.Action

namespace Storefront

/-! ### Rows -/

/-- The cells of an item, in the order of the columns. -/
def Item.cells (item : Item) : List Cell :=
  [.uuid item.id, .text item.title, .optional .text item.description, .real item.price,
    .instant item.createdAt, .instant item.updatedAt]

/-- The item that a row holds. The first column that cannot be read is the error. -/
def Item.ofRow (row : Row) : Except DriverError Item := do
  return {
    id := ← row.read "id" Row.uuid?
    title := ← row.read "title" Row.text?
    description := ← row.read "description" (Row.optional? Row.text?)
    price := ← row.read "price" Row.real?
    createdAt := ← row.read "created_at" Row.instant?
    updatedAt := ← row.read "updated_at" Row.instant? }

/-- The row of an item, as it is sent. -/
def Item.row (item : Item) : Row := Table.items.columns.zip item.cells

theorem Item.ofRow_row (item : Item) : Item.ofRow item.row = .ok item := by
  have description : Row.optional? Row.text? (.optional .text item.description) =
      some item.description := by
    cases item.description <;> rfl
  simp [Item.ofRow, Item.row, Item.cells, Table.columns, Row.read, List.lookup_cons, description,
    Row.uuid?, Row.text?, Row.real?, Row.instant?, bind, Except.bind, pure, Except.pure]

/-! ### Operations -/

/-- The operations on stored items. -/
structure ItemStore (m : Type → Type) where
  byId : Uuid → m (Except StoreError Item)
  page : PageRequest → m (Except StoreError (Page Item))
  create : Option NewItem → m (Except StoreError Item)

/-- The terms of a sort in a statement. -/
def SortOrder.terms (sort : SortOrder) : List OrderTerm :=
  sort.keys.map fun key => ⟨key.property, some key.direction⟩

/-- The values for the placeholders of a window. -/
def PageRequest.windowCells (request : PageRequest) : List Cell :=
  [.optional (fun limit : Nat => .integer limit) request.limit, .integer request.offset]

/-- All records that rows hold, in order. -/
def Row.readAll {α : Type} (read : Row → Except DriverError α) : List Row → Except DriverError (List α)
  | [] => .ok []
  | row :: rest => do
    let first ← read row
    let others ← readAll read rest
    return first :: others

namespace ItemStore

/-- The properties by which items may be sorted. -/
def sortable : List String := Table.items.columns

/-- The item with an identifier. -/
def find (id : Uuid) : Operation Item := do
  Operation.connect .ofDriver
  let rows ← Operation.send .ofDriver (.select .items (.equals "id" 1) [] none) [.uuid id]
  Operation.firstRow .ofDriver (.notFound "Item" id.text) Item.ofRow rows

/-- Counts the items and cuts the window out of them. -/
def list (request : PageRequest) (terms : List OrderTerm) : Operation (Page Item) := do
  Operation.beginSnapshot .ofDriver
  let counted ← Operation.send .ofDriver (.count .items .all) []
  let total ← Operation.known .ofDriver (Row.readFirst counted Row.integer?)
  let rows ← Operation.send .ofDriver (.select .items .all terms (some ⟨1, 2⟩)) request.windowCells
  let items ← Operation.known .ofDriver (Row.readAll Item.ofRow rows)
  Operation.commit .ofDriver
  return .ofWindow items total request.size

/-- Adds an item and reads it back from the row that the database answers. -/
def add (input : NewItem) : Operation Item := do
  let now ← Operation.readClock
  let id ← Operation.freshId
  let added := Statement.insert .items [(Item.register input id now).cells] true
  Operation.connect .ofDriver
  let rows ← Operation.send .ofDriver added.query added.values
  Operation.firstRow .ofDriver (.ofDriver .rowNotFound) Item.ofRow rows

/-- Items in the database, with a limit for each operation. A page is refused at once if it is to be sorted
by something else than the columns. -/
def inDatabase (limit : Option Duration) : ItemStore Action where
  byId id := Operation.within limit (find id)
  page request :=
    match request.sort.check sortable with
    | .error cause => .answered (.error (.rejected (.sort cause)))
    | .ok sort => Operation.within limit (list request sort.terms)
  create
    | none => .answered (.error .nilEntity)
    | some input => Operation.within limit (add input)

end ItemStore

end Storefront
