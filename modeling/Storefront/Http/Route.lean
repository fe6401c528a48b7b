/-
**Routes.**

The resources of the server and the paths under which they are found.  Paths have no slash at the end, so an
identifier that ends one has at least one character; before another part it may be empty.  It is taken as it
is written.

Main statement: `ofPath?_path` — every route whose path does not end with a slash is found under its path.
-/

import Storefront.Text.Space

namespace Storefront

open Storefront.Text

/-- A resource of the server. -/
inductive Route
  | health
  | accounts
  | account (id : List Char)
  | accountOrders (id : List Char)
  | items
  | item (id : List Char)
  | orders
  | order (id : List Char)
deriving DecidableEq

namespace Route

/-- The resource that the parts of a path between slashes lead to. -/
def ofSegments? : List String → Option Route
  | ["", "health"] => some .health
  | ["", "api", "v1", "account"] => some .accounts
  | ["", "api", "v1", "account", id] => if id.isEmpty then none else some (.account id.toList)
  | ["", "api", "v1", "account", id, "orders"] => some (.accountOrders id.toList)
  | ["", "api", "v1", "item"] => some .items
  | ["", "api", "v1", "item", id] => if id.isEmpty then none else some (.item id.toList)
  | ["", "api", "v1", "order"] => some .orders
  | ["", "api", "v1", "order", id] => if id.isEmpty then none else some (.order id.toList)
  | _ => none

/-- The resource at a path. -/
def ofPath? (path : List Char) : Option Route :=
  ofSegments? ((pieces '/' path).map String.ofList)

/-- Is something made there, rather than read? -/
def makes : Route → Bool
  | .accounts | .orders => true
  | _ => false

/-- The methods that the resource has. -/
def allowed (route : Route) : String := if route.makes then "POST" else "GET,HEAD"

/-- Does the resource have the method? -/
def allows (route : Route) (method : String) : Bool :=
  if route.makes then method == "POST" else method == "GET" || method == "HEAD"

/-- The parts of the path of a resource between slashes. -/
def segments : Route → List (List Char)
  | .health => [[], "health".toList]
  | .accounts => [[], "api".toList, "v1".toList, "account".toList]
  | .account id => [[], "api".toList, "v1".toList, "account".toList, id]
  | .accountOrders id => [[], "api".toList, "v1".toList, "account".toList, id, "orders".toList]
  | .items => [[], "api".toList, "v1".toList, "item".toList]
  | .item id => [[], "api".toList, "v1".toList, "item".toList, id]
  | .orders => [[], "api".toList, "v1".toList, "order".toList]
  | .order id => [[], "api".toList, "v1".toList, "order".toList, id]

/-- The path of a resource: its parts with slashes between them. -/
def path (route : Route) : List Char := ['/'].intercalate route.segments

/-- The identifier in the path of a resource, if there is one. -/
def id? : Route → Option (List Char)
  | .account id | .accountOrders id | .item id | .order id => some id
  | _ => none

/-- Every resource is found at its path, if that does not end with a slash. -/
theorem ofPath?_path {route : Route} (whole : ∀ id ∈ route.id?, '/' ∉ id)
    (ends : route.segments.getLast? ≠ some []) : ofPath? route.path = some route := by
  have split : pieces '/' route.path = route.segments := by
    unfold path
    apply pieces_intercalate
    · cases route <;> simp [segments]
    · cases route <;> simp_all [segments, id?]
  rw [ofPath?, split]
  cases route <;> simp_all [segments, ofSegments?]

end Route

end Storefront
