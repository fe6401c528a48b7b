/-
**What becomes of a wish for an order that is posted.**

A posted wish is refused for a fault; else it is answered that its account does not exist, whatever
the items are; else the answer is an internal error if an item does not exist; and otherwise the
order is made.  `OrderCommand.Outcome` lists the four, each with the response and the tables
afterwards.  Nothing else stands in the way of an order: lines may be many, may be about the same
item, and may be empty.

Main statements:

* `OrderCommand.Outcome.status_eq_created`: which wishes are granted;
* `App.respond_order`: on a database that nothing disturbs one of the four becomes of every wish.
-/

import Storefront.Proofs.Http.Frame
import Storefront.Proofs.Order.Atomicity
import Storefront.Proofs.Order.Making
import Storefront.Proofs.Order.Wishes
import Storefront.Proofs.Store.Entities

namespace Storefront

/-! ### Outcomes -/

/-- What can become of a wish for an order: the tables afterwards, and the response, whose status tells
the four apart. -/
inductive OrderCommand.Outcome (command : OrderCommand) (before : Tables) (response : Response) :
    Tables → Prop
  | refused (faulty : command.Faulty) (status : response.status = 400) :
      Outcome command before response before
  | unknown {input : NewOrder} (means : command.Means input)
      (unknown : ¬ before.Has .accounts input.accountId) (status : response.status = 404)
      (body : response.body = (Json.Value.object [
        ("error", .text ("Account not found: " ++ input.accountId.text)),
        ("code", .text "NOT_FOUND")]).render) :
      Outcome command before response before
  | broken {input : NewOrder} (means : command.Means input)
      (known : before.Has .accounts input.accountId) (unstocked : ¬ input.StockedIn before)
      (status : response.status = 500) (body : response.body = (Json.Value.object [
        ("error", .text "An internal error occurred"), ("code", .text "INTERNAL_ERROR")]).render) :
      Outcome command before response before
  | made {input : NewOrder} {order : Order} (means : command.Means input)
      (known : before.Has .accounts input.accountId) (stocked : input.StockedIn before)
      (made : order.MadeFrom input) (status : response.status = 201)
      (body : response.body = (Entity.order order).json.render) :
      Outcome command before response (before ++ order.kept)

namespace OrderCommand

variable {command : OrderCommand} {before after : Tables} {response : Response}

/-- A wish is granted exactly if it has no fault and its account and its items exist. -/
theorem Outcome.status_eq_created (outcome : command.Outcome before response after) :
    response.status = 201 ↔ ∃ input, command.Means input ∧ before.Has .accounts input.accountId ∧
      input.StockedIn before := by
  constructor
  · intro created
    cases outcome with
    | made means known stocked => exact ⟨_, means, known, stocked⟩
    | refused _ status => cases status.symm.trans created
    | unknown _ _ status => cases status.symm.trans created
    | broken _ _ _ status => cases status.symm.trans created
  · rintro ⟨input, means, known, stocked⟩
    cases outcome with
    | made _ _ _ _ status => exact status
    | refused faulty => exact absurd faulty means.not_faulty
    | unknown other unknown => exact absurd (means.unique other ▸ known) unknown
    | broken other _ unstocked => exact absurd (means.unique other ▸ stocked) unstocked

end OrderCommand

/-! ### Requests -/

namespace App

variable {settings : ServerSettings} {limit : Option Duration} {app : App} {environment : Environment}
  {request : Request} {machine : Machine} {command : OrderCommand}

theorem dispatch_order (services : app.services = .inDatabase limit)
    (posts : request.Posts "/api/v1/order")
    (read : Extract.body OrderCommand.decode request = .ok command) :
    Handler.dispatch app.services request =
      (Task.accepted command.toNew fun input => .call (.createOrder (some input))).action limit 201 := by
  have path : Route.ofPath? request.path = some .orders := by
    rw [posts.2]
    decide +kernel
  have allowed : Route.orders.allows request.method = true := by
    rw [posts.1]
    rfl
  rw [services, Handler.dispatch_eq path allowed (by rw [posts.1]; decide), Task.of, read]
  rfl

/-- The response to a wish that means an order says what has become of the call that makes it. -/
theorem respond_createOrder [Collation] {input : NewOrder} {result : Except StoreError Order}
    {left : Machine} (services : app.services = .inDatabase limit)
    (posts : request.Posts "/api/v1/order")
    (read : Extract.body OrderCommand.decode request = .ok command) (means : command.Means input)
    (performed : (requestId environment request machine).1.perform environment (some app.limit)
      ((OrderStore.inDatabase limit).create (some input)) = (left, .finished result)) :
    (app.respond environment request machine).1.tables = left.tables ∧
      (app.respond environment request machine).2.status =
        (Response.ofAnswer 201 Order.json result).status ∧
      (app.respond environment request machine).2.body =
        (Response.ofAnswer 201 Order.json result).body := by
  have other : request.method ≠ "OPTIONS" := by rw [posts.1]; decide
  have attended : app.attend environment request machine =
      (left, .finished (Response.ofAnswer 201 Order.json result)) := by
    rw [attend, dispatch_order services posts read, OrderCommand.toNew_eq_ok_iff.mpr means]
    change Machine.perform environment _ (StoreAnswer.response 201 <$> (StoreAnswer.order <$> _)) _ = _
    rw [Machine.perform_map, Machine.perform_map, performed]
    rfl
  obtain ⟨after, status, body⟩ := respond_eq other
  rw [after, status, body, attended]
  exact ⟨rfl, rfl, rfl⟩

/-- A wish with a fault is refused at once. -/
theorem respond_faulty [Collation] (services : app.services = .inDatabase limit)
    (posts : request.Posts "/api/v1/order")
    (read : Extract.body OrderCommand.decode request = .ok command) (faulty : command.Faulty) :
    (app.respond environment request machine).1.tables = machine.tables ∧
      (app.respond environment request machine).2.status = 400 := by
  have other : request.method ≠ "OPTIONS" := by rw [posts.1]; decide
  obtain ⟨after, status, _⟩ : (app.respond environment request machine).1 = _ ∧
    (app.respond environment request machine).2.status = _ ∧ _ := respond_eq other
  cases refused : command.toNew with
  | ok input => exact absurd refused (OrderCommand.toNew_ne_ok faulty input)
  | error cause =>
    have attended : app.attend environment request machine =
        ((requestId environment request machine).1, .finished (ErrorAnswer.refused cause).response) := by
      rw [attend, dispatch_order services posts read, refused]
      rfl
    rw [after, status, attended]
    exact ⟨tables_requestId, rfl⟩

/-- What becomes of the call becomes of the wish. -/
theorem outcome_of_creates {input : NewOrder} {result : Except StoreError Order} {before after : Tables}
    {response : Response} (means : command.Means input)
    (creates : OrderStore.Creates input before after result)
    (status : response.status = (Response.ofAnswer 201 Order.json result).status)
    (body : response.body = (Response.ofAnswer 201 Order.json result).body) :
    command.Outcome before response after := by
  cases creates with
  | unknown unknown => exact .unknown means unknown status body
  | broken known unstocked => exact .broken means known unstocked status body
  | made known stocked made => exact .made means known stocked made status body

/-- **A posted wish for an order is refused for a fault, else answered that its account does not
exist, else answered with an internal error if an item does not exist, and otherwise granted**, on
every database that has been in use, if nothing disturbs it and the identifiers are fresh. -/
theorem respond_order [Collation] {start : Machine} (built : build? settings limit = some app)
    (sound : start.tables.Sound) (reached : Relation.ReflTransGen Machine.Operated start machine)
    (posts : request.Posts "/api/v1/order")
    (read : Extract.body OrderCommand.decode request = .ok command)
    (healthy : environment.Healthy) (available : machine.pool = .open)
    (fresh : environment.FreshIn machine.tables machine.ids (machine.ids + command.items.length + 2))
    (inTime : (Handler.dispatch app.services request).InTime environment (some app.limit)
      (requestId environment request machine).1) :
    command.Outcome machine.tables (app.respond environment request machine).2
        (app.respond environment request machine).1.tables ∧
      ((app.respond environment request machine).2.status = 201 ↔
        ∃ input, command.Means input ∧ machine.tables.Has .accounts input.accountId ∧
          input.StockedIn machine.tables) := by
  have services := services_of_build? built
  suffices outcome : command.Outcome machine.tables (app.respond environment request machine).2
    (app.respond environment request machine).1.tables from ⟨outcome, outcome.status_eq_created⟩
  by_cases faulty : command.Faulty
  · obtain ⟨same, status⟩ := respond_faulty services posts read faulty
    exact same ▸ .refused faulty status
  · obtain ⟨input, means⟩ := OrderCommand.exists_means_iff.mpr faulty
    have accepted := OrderCommand.toNew_eq_ok_iff.mpr means
    have size := OrderCommand.length_toNew accepted
    have positive : ∀ line, some line ∈ input.items → 1 ≤ line.quantity := by
      intro line member
      obtain ⟨wish, _, asked⟩ := means.exists_wish member
      rw [asked.quantity]
      exact asked.enough
    obtain ⟨started, below⟩ := @ids_requestId environment request machine
    rw [dispatch_order services posts read, accepted] at inTime
    have now : (requestId environment request machine).1.tables.Sound := by
      rw [tables_requestId]
      exact sound.grown (Machine.grown_of_operated reached)
    obtain ⟨left, result, performed, creates⟩ := OrderStore.creates healthy
      (pool_requestId.trans available) (Action.inTime_of_map (Action.inTime_of_map inTime)) now positive
      (tables_requestId.symm ▸ fresh) started (by omega)
    obtain ⟨after, status, body⟩ := respond_createOrder services posts read means performed
    rw [tables_requestId] at creates
    rw [after]
    exact outcome_of_creates means creates status body

/-- A wish for an order with two lines about the same item and nothing between them. -/
def orderWish : Request where
  method := "POST"
  target := "/api/v1/order"
  headers := [("content-type", "application/json")]
  body := ("\x7b\"account_id\":\"00000000-0000-4000-8000-00000000000a\",\"items\":["
    ++ "\x7b\"item_id\":\"00000000-0000-4000-8000-00000000000b\",\"quantity\":3\x7d,null,"
    ++ "\x7b\"item_id\":\"00000000-0000-4000-8000-00000000000b\",\"quantity\":1\x7d]\x7d").toUTF8.toList

/-- What the wish says. -/
def orderWishCommand : OrderCommand where
  accountId := "00000000-0000-4000-8000-00000000000a"
  items := [some ⟨"00000000-0000-4000-8000-00000000000b", 3⟩, none,
    some ⟨"00000000-0000-4000-8000-00000000000b", 1⟩]

/-- An order of an item that stands on two lines is granted. -/
theorem respond_order_sample :
    ∃ (app : App) (machine : Machine), build? {} none = some app ∧
      Relation.ReflTransGen Machine.Operated {} machine ∧ machine.tables = shop ∧
      (app.respond .sample orderWish machine).2.status = 201 ∧
      orderWishCommand.Outcome shop (app.respond .sample orderWish machine).2
        (app.respond .sample orderWish machine).1.tables := by
  have built : build? {} none =
      some ⟨⟨["http://localhost:5173"]⟩, .inDatabase none, .ofSeconds 30⟩ := rfl
  obtain ⟨machine, reached, tables, ids, available⟩ : ∃ machine : Machine,
      Relation.ReflTransGen Machine.Operated {} machine ∧ machine.tables = shop ∧ machine.ids = 2 ∧
        machine.pool = .open :=
    ⟨_, .tail (.tail .refl
      (.call .sample none none (.createAccount (some ⟨"ada@example.org", none, none, none, .female⟩))))
      (.call .sample none none (.createItem (some ⟨"Tea", none, ⟨0⟩⟩))), rfl, rfl, rfl⟩
  have decoded : Extract.body OrderCommand.decode orderWish = .ok orderWishCommand := by decide +kernel
  have fresh : Environment.FreshIn .sample machine.tables machine.ids (machine.ids + 3 + 2) := by
    have distinct : ∀ one < 7, ∀ other < 7,
        Environment.sample.id one = Environment.sample.id other → one = other := by decide
    have unused : ∀ count < 7, 2 ≤ count → ∀ table ∈ [Table.accounts, .items, .orders, .orderItems],
        ¬ shop.Has table (Environment.sample.id count) := by decide
    rw [tables, ids]
    refine ⟨fun one other _ below _ below' => distinct one below other below', ?_⟩
    intro count started below table
    exact unused count below started table (by cases table <;> decide)
  have prompt : ∀ (machine : Machine) (action : Action Response),
      action.InTime .sample (some (.ofSeconds 30)) machine := fun machine action =>
    action.inTime_of_prompt (fun _ => rfl) _ machine
  obtain ⟨outcome, created⟩ := respond_order built Tables.sound_empty reached ⟨rfl, by decide +kernel⟩
    decoded (fun _ _ => rfl) available fresh (by apply prompt)
  rw [tables] at outcome created
  refine ⟨_, machine, built, reached, tables, created.mpr ?_, outcome⟩
  have means : orderWishCommand.Means
      ⟨.numbered 10, [some ⟨.numbered 11, 3⟩, none, some ⟨.numbered 11, 1⟩]⟩ :=
    OrderCommand.toNew_eq_ok_iff.mp (by decide +kernel)
  refine ⟨_, means, by decide, fun line member => ?_⟩
  have item : line.itemId = .numbered 11 := by
    simp only [List.mem_cons, Option.some.injEq, List.not_mem_nil, or_false, reduceCtorEq, false_or]
      at member
    rcases member with rfl | rfl <;> rfl
  rw [item]
  decide

end App

end Storefront
