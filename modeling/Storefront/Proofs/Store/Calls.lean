/-
**Calls of the stores.**

A `StoreCall` is any call of a store with its arguments, and `StoreCall.program` is what it does.
Every call keeps the promise of its kind (`StoreCall.program_keeps`): making an order adds it as a
whole or not at all, and a page of items, a page of orders and an order with its lines are what one
state holds.  In particular every call obeys the rule for statements.

Main statements:

* `StoreCall.program_keeps`: every call keeps its promise;
* `Services.inDatabase_lawful`, `Handler.dispatch_lawful`: so everything that the server does obeys
  the rule for statements.
-/

import Storefront.Http.Handler
import Storefront.Proofs.Item.Reading
import Storefront.Proofs.Order.Creation
import Storefront.Proofs.Order.Reading
import Storefront.Proofs.Program.Together
import Storefront.Proofs.Store.Adding

namespace Storefront

/-! ### Calls and answers -/

/-- A call of a store. -/
inductive StoreCall
  | accountById (id : Uuid)
  | accountByEmail (email : String)
  | createAccount (input : Option NewAccount)
  | itemById (id : Uuid)
  | itemPage (request : PageRequest)
  | createItem (input : Option NewItem)
  | orderById (id : Uuid)
  | orderSearch (accountId : Uuid) (request : PageRequest)
  | createOrder (input : Option NewOrder)

/-- The answer to a call. -/
inductive StoreAnswer
  | account (result : Except StoreError Account)
  | item (result : Except StoreError Item)
  | items (result : Except StoreError (Page Item))
  | order (result : Except StoreError Order)
  | orders (result : Except StoreError (Page Order))

/-- Is the answer what was asked for, or that it does not exist? -/
def StoreAnswer.Settled : StoreAnswer → Prop
  | .account result => Storefront.Settled result
  | .item result => Storefront.Settled result
  | .items result => Storefront.Settled result
  | .order result => Storefront.Settled result
  | .orders result => Storefront.Settled result

namespace StoreCall

/-- What a call does in the database, with a limit for it. -/
def action (limit : Option Duration) : StoreCall → Action StoreAnswer
  | .accountById id => .account <$> (AccountStore.inDatabase limit).byId id
  | .accountByEmail email => .account <$> (AccountStore.inDatabase limit).byEmail email
  | .createAccount input => .account <$> (AccountStore.inDatabase limit).create input
  | .itemById id => .item <$> (ItemStore.inDatabase limit).byId id
  | .itemPage request => .items <$> (ItemStore.inDatabase limit).page request
  | .createItem input => .item <$> (ItemStore.inDatabase limit).create input
  | .orderById id => .order <$> (OrderStore.inDatabase limit).byId id
  | .orderSearch accountId request => .orders <$> (OrderStore.inDatabase limit).search accountId request
  | .createOrder input => .order <$> (OrderStore.inDatabase limit).create input

/-- What a call does. -/
def program (call : StoreCall) : Program StoreAnswer := (call.action none).program

/-- Is this a call that makes an order? -/
def makesOrder : StoreCall → Bool
  | .createOrder _ => true
  | _ => false

/-- Is this a call that reads by several statements? -/
def reads : StoreCall → Bool
  | .itemPage _ | .orderById _ | .orderSearch _ _ => true
  | _ => false

/-! ### Promises -/

/-- Where a call can be dropped. -/
def cut : StoreCall → Cut
  | .createOrder _ => OrderStore.addCut
  | _ => .anywhere

/-- What a call leads to. -/
def post [Collation] (call : StoreCall) (answer : StoreAnswer) (view : View) : Prop :=
  match call, answer with
  | .createOrder input, .order result => OrderStore.createPost input result view
  | .createOrder _, _ => False
  | .itemPage _, answer | .orderById _, answer | .orderSearch _ _, answer =>
    answer.Settled → ∃ tables ∈ view.seen, ∀ id clock (solo : Solo), solo.tables = tables →
      (call.program.solo id clock solo).1 = answer
  | _, _ => True

/-- A reading call keeps its promise if the operation does. -/
theorem keeps_of_reading [Collation] {α : Type} {call : StoreCall}
    {answer : Except StoreError α → StoreAnswer} {action : Action (Except StoreError α)}
    {found : Tables → Except StoreError α} {tables : Tables}
    (program : call.program = (answer <$> action).program)
    (settled : ∀ result, (answer result).Settled → Storefront.Settled result)
    (keeps : action.program.Keeps .anywhere (ReadPost found) { tables := tables })
    (solo : ∀ id clock solo, (action.program.solo id clock solo).1 = found solo.tables) :
    (answer <$> action).program.Keeps .anywhere (fun answer view =>
      answer.Settled → ∃ tables ∈ view.seen, ∀ id clock (solo : Solo), solo.tables = tables →
        (call.program.solo id clock solo).1 = answer) { tables := tables } := by
  rw [Action.keeps_program_map]
  refine keeps.mono (fun _ _ _ => trivial) fun result view reading given => ?_
  obtain ⟨state, met, holds⟩ := reading (settled result given)
  refine ⟨state, met, ?_⟩
  rintro id clock solo' rfl
  rw [program, Action.solo_program_map, solo, holds]

/-- Every call keeps its promise. -/
theorem program_keeps [Collation] (call : StoreCall) (tables : Tables) :
    call.program.Keeps call.cut call.post { tables := tables } := by
  cases call with
  | accountById id =>
    refine Action.keeps_program_map.mpr ?_
    exact (AccountStore.find_keeps _ _ _).mono (fun _ _ kept => kept) fun _ _ _ => trivial
  | accountByEmail email =>
    refine Action.keeps_program_map.mpr ?_
    exact (AccountStore.find_keeps _ _ _).mono (fun _ _ kept => kept) fun _ _ _ => trivial
  | createAccount input =>
    refine Action.keeps_program_map.mpr ?_
    cases input with
    | none => trivial
    | some input =>
      exact (AccountStore.add_keeps input rfl).mono (fun _ _ _ => trivial) fun _ _ _ => trivial
  | itemById id =>
    refine Action.keeps_program_map.mpr ?_
    exact (ItemStore.find_keeps _).mono (fun _ _ kept => kept) fun _ _ _ => trivial
  | itemPage request =>
    refine keeps_of_reading rfl (fun _ given => given) (ItemStore.page_keeps request tables) ?_
    exact fun _ _ solo => ItemStore.page_solo request solo
  | createItem input =>
    refine Action.keeps_program_map.mpr ?_
    cases input with
    | none => trivial
    | some input =>
      exact (ItemStore.add_keeps input rfl).mono (fun _ _ _ => trivial) fun _ _ _ => trivial
  | orderById id =>
    refine keeps_of_reading rfl (fun _ given => given) (OrderStore.find_keeps id tables) ?_
    exact fun _ _ solo => OrderStore.find_solo id solo
  | orderSearch accountId request =>
    refine keeps_of_reading rfl (fun _ given => given)
      (OrderStore.search_keeps accountId request tables) ?_
    exact fun _ _ solo => OrderStore.search_solo accountId request solo
  | createOrder input =>
    refine Action.keeps_program_map.mpr ?_
    cases input with
    | none => exact ⟨rfl, rfl, rfl⟩
    | some input => exact OrderStore.add_keeps input tables

/-- The limit of a call does not change what it does. -/
theorem program_action (limit : Option Duration) (call : StoreCall) :
    (call.action limit).program = call.program := by
  cases call with
  | createAccount input => cases input <;> rfl
  | createItem input => cases input <;> rfl
  | createOrder input => cases input <;> rfl
  | itemPage request =>
    unfold program action ItemStore.inDatabase
    dsimp only
    cases request.sort.check ItemStore.sortable <;> rfl
  | orderSearch accountId request =>
    unfold program action OrderStore.inDatabase
    dsimp only
    cases request.sort.check OrderStore.sortable <;> rfl
  | _ => rfl

theorem unlimited_action (call : StoreCall) : (call.action none).Unlimited := by
  cases call with
  | createAccount input => cases input <;> trivial
  | createItem input => cases input <;> trivial
  | createOrder input => cases input <;> trivial
  | itemPage request =>
    unfold action ItemStore.inDatabase
    dsimp only
    cases request.sort.check ItemStore.sortable <;> trivial
  | orderSearch accountId request =>
    unfold action OrderStore.inDatabase
    dsimp only
    cases request.sort.check OrderStore.sortable <;> trivial
  | _ => trivial

/-- What a reading call promises. -/
theorem exists_of_post [Collation] {call : StoreCall} {answer : StoreAnswer} {view : View}
    (reads : call.reads = true) (kept : call.post answer view) (settled : answer.Settled) :
    ∃ tables ∈ view.seen, ∀ id clock (solo : Solo), solo.tables = tables →
      (call.program.solo id clock solo).1 = answer := by
  cases call with
  | itemPage request => exact kept settled
  | orderById id => exact kept settled
  | orderSearch accountId request => exact kept settled
  | _ => cases reads

end StoreCall

/-! ### Calls beside each other -/

variable [Collation]

namespace System

variable {ι : Type}

/-- Calls that have not begun, on tables and with a number of connections. -/
def ofCalls (calls : ι → StoreCall) (tables : Tables) (size : Nat) : System ι StoreAnswer :=
  .start (fun who => (calls who).program) tables size

/-- However calls are run beside each other, every one of them has kept its promise so far. -/
theorem sane_ofCalls [DecidableEq ι] {calls : ι → StoreCall} {tables : Tables} {size : Nat}
    {now : System ι StoreAnswer} (run : (ofCalls calls tables size).Run now) :
    Sane (fun who => (calls who).cut) (fun who => (calls who).post) (ofCalls calls tables size) now :=
  run.sane fun who tables => (calls who).program_keeps tables

end System

/-! ### The rule for statements -/

/-- Services that obey the rule for statements. -/
structure Services.Lawful (services : Services) : Prop where
  accountById : ∀ id, (services.accounts.byId id).Lawful
  accountByEmail : ∀ email, (services.accounts.byEmail email).Lawful
  createAccount : ∀ input, (services.accounts.create input).Lawful
  itemById : ∀ id, (services.items.byId id).Lawful
  itemPage : ∀ request, (services.items.page request).Lawful
  createItem : ∀ input, (services.items.create input).Lawful
  orderById : ∀ id, (services.orders.byId id).Lawful
  orderSearch : ∀ accountId request, (services.orders.search accountId request).Lawful
  createOrder : ∀ input, (services.orders.create input).Lawful
  health : services.health.Lawful

/-- An action obeys the rule for statements if the call does that it comes from. -/
theorem StoreCall.lawful_of_action {α : Type} {answer : Except StoreError α → StoreAnswer}
    (limit : Option Duration) (call : StoreCall) {action : Action (Except StoreError α)}
    (same : call.action limit = answer <$> action) :
    action.Lawful := by
  intro tables
  have keeps := call.program_keeps tables
  rw [← program_action limit, same, Action.keeps_program_map] at keeps
  exact keeps.mono (fun _ _ _ => trivial) fun _ _ _ => trivial

/-- Services on the database obey the rule for statements. -/
theorem Services.inDatabase_lawful (limit : Option Duration) : (inDatabase limit).Lawful where
  accountById id := StoreCall.lawful_of_action limit (.accountById id) rfl
  accountByEmail email := StoreCall.lawful_of_action limit (.accountByEmail email) rfl
  createAccount input := StoreCall.lawful_of_action limit (.createAccount input) rfl
  itemById id := StoreCall.lawful_of_action limit (.itemById id) rfl
  itemPage request := StoreCall.lawful_of_action limit (.itemPage request) rfl
  createItem input := StoreCall.lawful_of_action limit (.createItem input) rfl
  orderById id := StoreCall.lawful_of_action limit (.orderById id) rfl
  orderSearch accountId request := StoreCall.lawful_of_action limit (.orderSearch accountId request) rfl
  createOrder input := StoreCall.lawful_of_action limit (.createOrder input) rfl
  health _ := Health.ping_keeps

namespace Handler

variable {services : Services}

theorem withPart_lawful {α : Type} {part : Except Response α} {next : α → Action Response}
    (lawful : ∀ value, (next value).Lawful) : (withPart part next).Lawful := by
  cases part with
  | ok value => exact lawful value
  | error response => exact Action.lawful_answered

/-- What the server does at a resource obeys the rule for statements. -/
theorem handle_lawful (lawful : services.Lawful) (request : Request) (route : Route) :
    (handle services request route).Lawful := by
  cases route with
  | health => exact lawful.health.map
  | accounts =>
    refine withPart_lawful fun command => Action.Lawful.map ?_
    unfold AccountService.create
    cases command.check with
    | error cause => exact Action.lawful_answered
    | ok checked => exact (lawful.createAccount _).map
  | account raw =>
    refine withPart_lawful fun id => Action.Lawful.map ?_
    unfold AccountService.byId
    cases Rejection.readId "account id" id with
    | error cause => exact Action.lawful_answered
    | ok id => exact (lawful.accountById id).map
  | accountOrders raw =>
    refine withPart_lawful fun id => withPart_lawful fun page => Action.Lawful.map ?_
    unfold OrderService.search
    cases Rejection.readId "account id" id with
    | error cause => exact Action.lawful_answered
    | ok id => exact (lawful.orderSearch id page).map
  | items => exact withPart_lawful fun page => (lawful.itemPage page).map.map
  | item raw =>
    refine withPart_lawful fun id => Action.Lawful.map ?_
    unfold ItemService.byId
    cases Rejection.readId "item id" id with
    | error cause => exact Action.lawful_answered
    | ok id => exact (lawful.itemById id).map
  | orders =>
    refine withPart_lawful fun command => Action.Lawful.map ?_
    unfold OrderService.create
    cases command.toNew with
    | error cause => exact Action.lawful_answered
    | ok input => exact (lawful.createOrder _).map
  | order raw =>
    refine withPart_lawful fun id => Action.Lawful.map ?_
    unfold OrderService.byId
    cases Rejection.readId "order id" id with
    | error cause => exact Action.lawful_answered
    | ok id => exact (lawful.orderById id).map

/-- What the server does with a request obeys the rule for statements. -/
theorem dispatch_lawful (lawful : services.Lawful) (request : Request) :
    (dispatch services request).Lawful := by
  unfold dispatch
  cases Route.ofPath? request.path with
  | none => exact Action.lawful_answered
  | some route =>
    dsimp only
    split
    · exact Action.lawful_answered
    · split
      · exact (handle_lawful lawful request route).map
      · exact handle_lawful lawful request route

end Handler

end Storefront
