/-
**The order service.**

What can be asked about orders, with identifiers as texts.  Everything is checked before the store is asked,
and the store is asked at most once.

Main statements: `create_accepted` and `create_rejected` — the store is asked exactly for the order that the
wish means, and not at all if it means none.
-/

import Storefront.Order.Store
import Storefront.Service.Error

namespace Storefront.OrderService

variable {m : Type → Type} [Functor m] [Pure m]

/-- Makes an order for a wish, if its quantities and identifiers are sound. -/
def create (store : OrderStore m) (command : OrderCommand) : m (Except ServiceError Order) :=
  match command.toNew with
  | .error cause => pure (.error (.rejected cause))
  | .ok input =>
    ServiceError.consult ("failed to create order for account: " ++ input.accountId.text) <$>
      store.create (some input)

/-- The order with an identifier that is given as a text. -/
def byId (store : OrderStore m) (raw : String) : m (Except ServiceError Order) :=
  match Rejection.readId "order id" raw with
  | .error cause => pure (.error (.rejected cause))
  | .ok id => ServiceError.consult ("failed to get order by id: " ++ id.text) <$> store.byId id

/-- A page of the orders of an account whose identifier is given as a text. -/
def search (store : OrderStore m) (raw : String) (request : PageRequest) :
    m (Except ServiceError (Page Order)) :=
  match Rejection.readId "account id" raw with
  | .error cause => pure (.error (.rejected cause))
  | .ok id =>
    ServiceError.consult ("failed to search orders for account: " ++ id.text) <$>
      store.search id request

/-- A wish that means an order asks the store for it. -/
theorem create_accepted {store : OrderStore m} {command : OrderCommand} {input : NewOrder}
    (read : command.toNew = .ok input) :
    create store command =
      ServiceError.consult ("failed to create order for account: " ++ input.accountId.text) <$>
        store.create (some input) := by
  simp [create, read]

/-- A wish that means no order leaves the store alone. -/
theorem create_rejected {store : OrderStore m} {command : OrderCommand} {cause : Rejection}
    (refused : command.toNew = .error cause) :
    create store command = pure (.error (.rejected cause)) := by
  simp [create, refused]

end Storefront.OrderService
