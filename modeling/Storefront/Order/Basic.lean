/-
**Orders.**

An `Order` belongs to an account and has lines, each with an item and a quantity, in the order in which
they were asked for.  It is made from an `OrderForm`, in which some lines may be left empty.  A form comes
in two kinds that differ in how identifiers are given:

* `NewOrder` has identifiers;
* `OrderCommand` has texts, from which `OrderCommand.toNew` reads identifiers.

Main statement: `length_toNew` — every line of the wish, empty or not, is a line of the order to be made.
-/

import Storefront.Json.Decode
import Storefront.Json.Value
import Storefront.Rejection
import Storefront.Time.Timestamp

namespace Storefront

open Storefront.Json

/-- A line of an order that does not exist yet; `ι` is how identifiers are given. -/
structure LineForm (ι : Type) where
  itemId : ι
  quantity : Int
deriving DecidableEq

/-- What is known about an order before it exists. Empty lines are skipped. -/
structure OrderForm (ι : Type) where
  accountId : ι
  items : List (Option (LineForm ι)) := []
deriving DecidableEq

/-- A line to be made, with the identifier of its item. -/
abbrev NewLine := LineForm Uuid

/-- An order to be made, with the identifiers of its account and of its items. -/
abbrev NewOrder := OrderForm Uuid

/-- The wish for a line. -/
abbrev LineCommand := LineForm String

/-- The wish for an order. -/
abbrev OrderCommand := OrderForm String

/-- A line of an order. Positions count from zero. -/
structure OrderLine where
  id : Uuid
  orderId : Uuid
  itemId : Uuid
  quantity : Int
  position : Int
  createdAt : Timestamp
  updatedAt : Timestamp
deriving DecidableEq

/-- An order with its lines. -/
structure Order where
  id : Uuid
  accountId : Uuid
  createdAt : Timestamp
  updatedAt : Timestamp
  items : List OrderLine := []
deriving DecidableEq

/-- An order of an account, without lines, made at a moment. -/
def Order.register (accountId id : Uuid) (now : Timestamp) : Order where
  id := id
  accountId := accountId
  createdAt := now
  updatedAt := now

/-- A line of an order at a position, made at a moment. -/
def OrderLine.register (orderId : Uuid) (line : NewLine) (position : Int) (id : Uuid)
    (now : Timestamp) : OrderLine where
  id := id
  orderId := orderId
  itemId := line.itemId
  quantity := line.quantity
  position := position
  createdAt := now
  updatedAt := now

/-! ### From wishes to orders -/

/-- The line to be made for a wish. The quantity is looked at before the identifier. -/
def LineCommand.toNew (command : LineCommand) : Except Rejection NewLine := do
  Rejection.requireQuantity command.quantity
  let itemId ← Rejection.readId "item id" command.itemId
  return ⟨itemId, command.quantity⟩

/-- The lines to be made for wishes, with empty ones in their places; the first wish that is refused
decides. -/
def LineCommand.allToNew : List (Option LineCommand) → Except Rejection (List (Option NewLine))
  | [] => .ok []
  | none :: rest => do
    let lines ← allToNew rest
    return none :: lines
  | some command :: rest => do
    let line ← command.toNew
    let lines ← allToNew rest
    return some line :: lines

/-- The order to be made for a wish. The account is looked at after the lines. -/
def OrderCommand.toNew (command : OrderCommand) : Except Rejection NewOrder := do
  let items ← LineCommand.allToNew command.items
  let accountId ← Rejection.readId "account id" command.accountId
  return ⟨accountId, items⟩

theorem LineCommand.length_allToNew {commands : List (Option LineCommand)}
    {lines : List (Option NewLine)} (read : allToNew commands = .ok lines) :
    lines.length = commands.length := by
  fun_induction allToNew commands generalizing lines with
  | case1 => cases read; rfl
  | case2 rest ih =>
    cases others : allToNew rest with
    | error cause => simp [others, bind, Except.bind] at read
    | ok tail =>
      simp only [others, bind, Except.bind, pure, Except.pure, Except.ok.injEq] at read
      subst read
      simp [ih others]
  | case3 command rest ih =>
    cases first : command.toNew with
    | error cause => simp [first, bind, Except.bind] at read
    | ok line =>
      cases others : allToNew rest with
      | error cause => simp [first, others, bind, Except.bind] at read
      | ok tail =>
        simp only [first, others, bind, Except.bind, pure, Except.pure, Except.ok.injEq] at read
        subst read
        simp [ih others]

/-- Every line of the wish, empty or not, is a line of the order to be made. -/
theorem OrderCommand.length_toNew {command : OrderCommand} {order : NewOrder}
    (read : command.toNew = .ok order) : order.items.length = command.items.length := by
  unfold toNew at read
  cases lines : LineCommand.allToNew command.items with
  | error cause => simp [lines, bind, Except.bind] at read
  | ok items =>
    cases account : Rejection.readId "account id" command.accountId with
    | error cause => simp [lines, account, bind, Except.bind] at read
    | ok accountId =>
      simp only [lines, account, bind, Except.bind, pure, Except.pure, Except.ok.injEq] at read
      subst read
      exact LineCommand.length_allToNew lines

/-! ### Written forms -/

/-- How a line is written. -/
def OrderLine.json (line : OrderLine) : Value :=
  .object [
    ("id", .text line.id.text),
    ("order_id", .text line.orderId.text),
    ("item_id", .text line.itemId.text),
    ("quantity", .integer line.quantity),
    ("position", .integer line.position),
    ("created_at", .text line.createdAt.text),
    ("updated_at", .text line.updatedAt.text)]

/-- How an order is written, with its lines in the order in which it has them. -/
def Order.json (order : Order) : Value :=
  .object [
    ("id", .text order.id.text),
    ("account_id", .text order.accountId.text),
    ("created_at", .text order.createdAt.text),
    ("updated_at", .text order.updatedAt.text),
    ("items", .array (order.items.map OrderLine.json))]

namespace LineForm

/-- The fields of a line that have been given. -/
structure Draft (ι : Type) where
  itemId : Option ι := none
  quantity : Option Int := none

/-- How a line is written. -/
def shape {ι : Type} (name : String) (identifier : Decoder ι) : Shape (Draft ι) (LineForm ι) where
  name := name
  fields := [
    Shape.field "item_id" identifier Draft.itemId
      fun value draft => { draft with itemId := some value },
    Shape.field "quantity" .int32 Draft.quantity
      fun value draft => { draft with quantity := some value }]
  draft := {}
  finish draft := do
    let itemId ← Shape.required "item_id" draft.itemId
    let quantity ← Shape.required "quantity" draft.quantity
    return ⟨itemId, quantity⟩

end LineForm

namespace OrderForm

/-- The fields of an order that have been given. -/
structure Draft (ι : Type) where
  accountId : Option ι := none
  items : Option (List (Option (LineForm ι))) := none

/-- How an order is written; without lines it has none. -/
def shape {ι : Type} (name lineName : String) (identifier : Decoder ι) :
    Shape (Draft ι) (OrderForm ι) where
  name := name
  fields := [
    Shape.field "account_id" identifier Draft.accountId
      fun value draft => { draft with accountId := some value },
    Shape.field "items" (.list (.optional (LineForm.shape lineName identifier).decode)) Draft.items
      (fun value draft => { draft with items := some value }) true]
  draft := {}
  finish draft := do
    let accountId ← Shape.required "account_id" draft.accountId
    return ⟨accountId, draft.items.getD []⟩

end OrderForm

/-- Reads an order to be made; its identifiers have to be well formed. -/
def NewOrder.decode : Decoder NewOrder :=
  (OrderForm.shape "NewOrder" "NewOrderItem" .uuid).decode

/-- Reads the wish for an order, whose identifiers are any texts. -/
def OrderCommand.decode : Decoder OrderCommand :=
  (OrderForm.shape "CreateOrderCommand" "OrderLineCommand" .text).decode

end Storefront
