/-
**Handlers.**

What the server does at each of its resources.  A handler takes what it needs of the request, from the path
to the query or the body, and asks a service; the result is an action that finds the response.
-/

import Storefront.Account.Service
import Storefront.Http.ErrorAnswer
import Storefront.Http.Extract
import Storefront.Http.Route
import Storefront.Item.Service
import Storefront.Order.Service
import Storefront.Paging.PageJson
import Storefront.Store.Health

namespace Storefront

/-- How many connections there are, and how many of them are idle. -/
structure PoolStatus where
  size : Nat := 1
  idle : Nat := 1

/-- What the handlers work with. -/
structure Services where
  accounts : AccountStore Action
  items : ItemStore Action
  orders : OrderStore Action
  health : Action (Except DriverError Unit) := Health.check
  pool : PoolStatus := {}

/-- Services on the database, with a limit for each operation. -/
def Services.inDatabase (limit : Option Duration) : Services where
  accounts := .inDatabase limit
  items := .inDatabase limit
  orders := .inDatabase limit

namespace Handler

/-- An action for a part of a request that could be had, or the response instead. -/
def withPart {α : Type} (part : Except Response α) (next : α → Action Response) : Action Response :=
  match part with
  | .ok value => next value
  | .error response => .answered response

/-- The page that is asked for, or the response instead. -/
def page (request : Request) : Except Response PageRequest :=
  match Extract.pageQuery request with
  | .error response => .error response
  | .ok query =>
    query.request.mapError fun cause => (ErrorAnswer.refused (.sort cause)).response

/-- Tells whether the database can be reached. -/
def health (services : Services) : Action Response :=
  services.health.map fun answer =>
    let healthy := answer.toBool
    .ofJson 200 (.object [
      ("status", .text (if healthy then "ok" else "degraded")),
      ("version", .text "0.1.0"),
      ("db_healthy", .boolean healthy),
      ("pool_size", .integer services.pool.size),
      ("pool_idle", .integer services.pool.idle)])

/-- `POST` to the accounts: makes one. -/
def createAccount (services : Services) (request : Request) : Action Response :=
  withPart (Extract.body AccountCommand.decode request) fun command =>
    .ofService 201 Account.json <$> AccountService.create services.accounts command

/-- `GET` of one account. -/
def account (services : Services) (raw : List Char) : Action Response :=
  withPart (Extract.id raw) fun id =>
    .ofService 200 Account.json <$> AccountService.byId services.accounts id

/-- `GET` of the orders of an account: a page of them. -/
def accountOrders (services : Services) (raw : List Char) (request : Request) : Action Response :=
  withPart (Extract.id raw) fun id =>
    withPart (page request) fun page =>
      .ofService 200 (Page.json Order.json) <$> OrderService.search services.orders id page

/-- `GET` of the items: a page of them. -/
def items (services : Services) (request : Request) : Action Response :=
  withPart (page request) fun page =>
    .ofService 200 (Page.json Item.json) <$> ItemService.page services.items page

/-- `GET` of one item. -/
def item (services : Services) (raw : List Char) : Action Response :=
  withPart (Extract.id raw) fun id =>
    .ofService 200 Item.json <$> ItemService.byId services.items id

/-- `POST` to the orders: makes one. -/
def createOrder (services : Services) (request : Request) : Action Response :=
  withPart (Extract.body OrderCommand.decode request) fun command =>
    .ofService 201 Order.json <$> OrderService.create services.orders command

/-- `GET` of one order. -/
def order (services : Services) (raw : List Char) : Action Response :=
  withPart (Extract.id raw) fun id =>
    .ofService 200 Order.json <$> OrderService.byId services.orders id

/-- What the server does at a resource. -/
def handle (services : Services) (request : Request) : Route → Action Response
  | .health => health services
  | .accounts => createAccount services request
  | .account id => account services id
  | .accountOrders id => accountOrders services id request
  | .items => items services request
  | .item id => item services id
  | .orders => createOrder services request
  | .order id => order services id

/-- What the server does with a request: at a path without a resource there is nothing, and a resource has
certain methods only.  The head of a response is the response without its text. -/
def dispatch (services : Services) (request : Request) : Action Response :=
  match Route.ofPath? request.path with
  | none => .answered (.ofStatus 404)
  | some route =>
    if !route.allows request.method then
      .answered ((Response.ofStatus 405).withHeaders [("allow", route.allowed)])
    else if request.method == "HEAD" then (handle services request route).map Response.withoutBody
    else handle services request route

end Handler

end Storefront
