/-
**The item service.**

What can be asked about items, with identifiers as texts.
-/

import Storefront.Item.Store
import Storefront.Service.Error

namespace Storefront.ItemService

variable {m : Type → Type} [Functor m] [Pure m]

/-- The item with an identifier that is given as a text. -/
def byId (store : ItemStore m) (raw : String) : m (Except ServiceError Item) :=
  match Rejection.readId "item id" raw with
  | .error cause => pure (.error (.rejected cause))
  | .ok id => ServiceError.consult ("failed to get item by id: " ++ id.text) <$> store.byId id

/-- A page of all items. -/
def page (store : ItemStore m) (request : PageRequest) : m (Except ServiceError (Page Item)) :=
  ServiceError.consult "failed to get item page" <$> store.page request

end Storefront.ItemService
