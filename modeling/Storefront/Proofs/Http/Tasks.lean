/-
**What requests come to.**

At a resource of a server on the database a request comes to a `Task`: a response at once, a look at
the health of the database, or one call of a store.  So what is known of the calls of the stores is
known of requests.

Main statements:

* `Handler.handle_eq`: what the server does at a resource is the task of the request;
* `Handler.dispatch_cases`: a request either comes to nothing or to the task of its resource;
* `App.respond_eq`: a response says how the work on its request has ended.
-/

import Storefront.Http.App
import Storefront.Proofs.Program.Endings
import Storefront.Proofs.Store.Calls

namespace Storefront

/-! ### Refusals -/

/-- The statuses of requests that are refused before a store is asked. -/
def Response.Refusal (response : Response) : Prop := response.status ∈ [400, 413, 415, 422]

/-- The responses that are written here: a text or a JSON value, with the header that says which. -/
inductive Response.Written : Response → Prop
  | text (status : Nat) (text : String) : Written (.ofText status text)
  | json (status : Nat) (value : Json.Value) : Written (.ofJson status value)

section Parts

variable {request : Request} {response : Response}

theorem Extract.refusal_id {raw : List Char} (unread : id raw = .error response) :
    response.Refusal ∧ response.Written := by
  unfold id at unread
  split at unread
  · cases unread
  · cases unread
    exact ⟨List.mem_cons_self, .text _ _⟩

theorem Extract.refusal_body {α : Type} {decode : Json.Decoder α}
    (unread : body decode request = .error response) : response.Refusal ∧ response.Written := by
  unfold body at unread
  split at unread
  · split at unread
    · cases unread
      exact ⟨by simp [Response.Refusal, tooLarge, Response.ofText], .text _ _⟩
    · cases read : Json.read decode (Text.Utf8.symbols request.body) with
      | ok value => rw [read] at unread; cases unread
      | error cause =>
        rw [read] at unread
        cases unread
        cases cause <;> exact ⟨by simp [Response.Refusal, unreadable, Response.ofText], .text _ _⟩
  · cases unread
    exact ⟨by simp [Response.Refusal, unsupported, Response.ofText], .text _ _⟩

theorem Handler.refusal_page (unread : page request = .error response) :
    response.Refusal ∧ response.Written := by
  unfold page at unread
  split at unread
  · next query =>
    cases unread
    unfold Extract.pageQuery at query
    cases form : PageQuery.ofForm request.query with
    | ok found => rw [form] at query; cases query
    | error cause => rw [form] at query; cases query; exact ⟨List.mem_cons_self, .text _ _⟩
  · next query _ =>
    cases asked : query.request with
    | ok found => rw [asked] at unread; cases unread
    | error cause => rw [asked] at unread; cases unread; exact ⟨List.mem_cons_self, .json _ _⟩

end Parts

/-! ### Tasks -/

/-- The response to the answer of a store: its result with a status, or the answer to its error. -/
def Response.ofAnswer {α : Type} (status : Nat) (json : α → Json.Value) :
    Except StoreError α → Response
  | .ok value => .ofJson status (json value)
  | .error cause => (ErrorAnswer.ofStore cause).response

/-- What was being done when a store failed is not part of the response. -/
theorem Response.ofService_consult {α : Type} (status : Nat) (json : α → Json.Value)
    (context : String) (answer : Except StoreError α) :
    ofService status json (ServiceError.consult context answer) = ofAnswer status json answer := by
  cases answer <;> rfl

/-- The response to the answer to a call. -/
def StoreAnswer.response (status : Nat) : StoreAnswer → Response
  | .account result => .ofAnswer status Account.json result
  | .item result => .ofAnswer status Item.json result
  | .items result => .ofAnswer status (Page.json Item.json) result
  | .order result => .ofAnswer status Order.json result
  | .orders result => .ofAnswer status (Page.json Order.json) result

/-- What a request comes to. -/
inductive Task
  | answer (response : Response)
  /-- A look at the health of the database. -/
  | health
  | call (call : StoreCall)

namespace Task

/-- The task for a part of a request that could be had, or the response instead. -/
def withPart {α : Type} (part : Except Response α) (next : α → Task) : Task :=
  match part with
  | .ok value => next value
  | .error response => .answer response

/-- The task for what a service accepts, or the response to what it refuses. -/
def accepted {α : Type} (result : Except Rejection α) (next : α → Task) : Task :=
  match result with
  | .ok value => next value
  | .error cause => .answer (ErrorAnswer.refused cause).response

theorem withPart_eq_call {α : Type} {part : Except Response α} {next : α → Task} {call : StoreCall} :
    withPart part next = .call call ↔ ∃ value, part = .ok value ∧ next value = .call call := by
  cases part with
  | ok value =>
    exact ⟨fun same => ⟨value, rfl, same⟩, fun ⟨_, found, same⟩ => by cases found; exact same⟩
  | error response => exact ⟨nofun, nofun⟩

theorem accepted_eq_call {α : Type} {result : Except Rejection α} {next : α → Task}
    {call : StoreCall} :
    accepted result next = .call call ↔ ∃ value, result = .ok value ∧ next value = .call call := by
  cases result with
  | ok value =>
    exact ⟨fun same => ⟨value, rfl, same⟩, fun ⟨_, found, same⟩ => by cases found; exact same⟩
  | error cause => exact ⟨nofun, nofun⟩

/-- What a request comes to at a resource. -/
def of (request : Request) : Route → Task
  | .health => .health
  | .accounts =>
    withPart (Extract.body AccountCommand.decode request) fun command =>
      accepted command.check fun _ => .call (.createAccount (some command.toNew))
  | .account raw =>
    withPart (Extract.id raw) fun text =>
      accepted (Rejection.readId "account id" text) fun id => .call (.accountById id)
  | .accountOrders raw =>
    withPart (Extract.id raw) fun text =>
      withPart (Handler.page request) fun page =>
        accepted (Rejection.readId "account id" text) fun id => .call (.orderSearch id page)
  | .items => withPart (Handler.page request) fun page => .call (.itemPage page)
  | .item raw =>
    withPart (Extract.id raw) fun text =>
      accepted (Rejection.readId "item id" text) fun id => .call (.itemById id)
  | .orders =>
    withPart (Extract.body OrderCommand.decode request) fun command =>
      accepted command.toNew fun input => .call (.createOrder (some input))
  | .order raw =>
    withPart (Extract.id raw) fun text =>
      accepted (Rejection.readId "order id" text) fun id => .call (.orderById id)

section Refusals

variable {request : Request} {response : Response} {α : Type}

theorem withPart_eq_answer {part : Except Response α} {next : α → Task}
    (same : withPart part next = .answer response) :
    part = .error response ∨ ∃ value, next value = .answer response := by
  cases part with
  | ok value => exact Or.inr ⟨value, same⟩
  | error other => cases same; exact Or.inl rfl

theorem refusal_accepted {result : Except Rejection α} {call : α → StoreCall}
    (same : accepted result (fun value => .call (call value)) = .answer response) :
    response.Refusal ∧ response.Written := by
  cases result with
  | ok value => cases same
  | error cause => cases same; exact ⟨List.mem_cons_self, .json _ _⟩

/-- A response at once refuses the request. -/
theorem refusal_of {route : Route} (asked : of request route = .answer response) :
    response.Refusal ∧ response.Written := by
  cases route with
  | health => cases asked
  | accounts =>
    obtain unread | ⟨command, asked⟩ := withPart_eq_answer asked
    · exact Extract.refusal_body unread
    · exact refusal_accepted asked
  | account raw =>
    obtain unread | ⟨text, asked⟩ := withPart_eq_answer asked
    · exact Extract.refusal_id unread
    · exact refusal_accepted asked
  | accountOrders raw =>
    obtain unread | ⟨text, asked⟩ := withPart_eq_answer asked
    · exact Extract.refusal_id unread
    · obtain unread | ⟨page, asked⟩ := withPart_eq_answer asked
      · exact Handler.refusal_page unread
      · exact refusal_accepted asked
  | items =>
    obtain unread | ⟨page, asked⟩ := withPart_eq_answer asked
    · exact Handler.refusal_page unread
    · cases asked
  | item raw =>
    obtain unread | ⟨text, asked⟩ := withPart_eq_answer asked
    · exact Extract.refusal_id unread
    · exact refusal_accepted asked
  | orders =>
    obtain unread | ⟨command, asked⟩ := withPart_eq_answer asked
    · exact Extract.refusal_body unread
    · exact refusal_accepted asked
  | order raw =>
    obtain unread | ⟨text, asked⟩ := withPart_eq_answer asked
    · exact Extract.refusal_id unread
    · exact refusal_accepted asked

end Refusals

/-- A task as an action, with a limit for the operation and the status of a result. -/
def action (limit : Option Duration) (status : Nat) : Task → Action Response
  | .answer response => .answered response
  | .health => Handler.health (.inDatabase limit)
  | .call asked => StoreAnswer.response status <$> asked.action limit

end Task

/-- The status of a result at a resource. -/
def Route.status (route : Route) : Nat := if route.makes then 201 else 200

/-! ### Handlers -/

namespace Handler

variable {limit : Option Duration}

theorem withPart_eq {α : Type} {part : Except Response α} {next : α → Action Response}
    {task : α → Task} {status : Nat} (same : ∀ value, next value = (task value).action limit status) :
    withPart part next = (Task.withPart part task).action limit status := by
  cases part with
  | ok value => exact same value
  | error response => rfl

/-- A service that asks a store says what was being done, which is not part of the response. -/
theorem consult_eq {α : Type} {answer : Except StoreError α → StoreAnswer} {status : Nat}
    {json : α → Json.Value} {context : String} {action : Action (Except StoreError α)}
    (same : ∀ result, (answer result).response status = .ofAnswer status json result) :
    (Response.ofService status json <$> (ServiceError.consult context <$> action)) =
      StoreAnswer.response status <$> (answer <$> action) := by
  rw [Action.map_map, Action.map_map]
  congr 1
  funext result
  rw [same, Response.ofService_consult]

/-- What the server does at a resource is the task of the request. -/
theorem handle_eq (request : Request) (route : Route) :
    handle (.inDatabase limit) request route = (Task.of request route).action limit route.status := by
  cases route with
  | health => rfl
  | accounts =>
    refine withPart_eq fun command => ?_
    unfold AccountService.create
    cases command.check with
    | error cause => rfl
    | ok checked => exact consult_eq fun _ => rfl
  | account raw =>
    refine withPart_eq fun text => ?_
    unfold AccountService.byId
    cases Rejection.readId "account id" text with
    | error cause => rfl
    | ok id => exact consult_eq fun _ => rfl
  | accountOrders raw =>
    refine withPart_eq fun text => withPart_eq fun page => ?_
    unfold OrderService.search
    cases Rejection.readId "account id" text with
    | error cause => rfl
    | ok id => exact consult_eq fun _ => rfl
  | items => exact withPart_eq fun page => consult_eq fun _ => rfl
  | item raw =>
    refine withPart_eq fun text => ?_
    unfold ItemService.byId
    cases Rejection.readId "item id" text with
    | error cause => rfl
    | ok id => exact consult_eq fun _ => rfl
  | orders =>
    refine withPart_eq fun command => ?_
    unfold OrderService.create
    cases command.toNew with
    | error cause => rfl
    | ok input => exact consult_eq fun _ => rfl
  | order raw =>
    refine withPart_eq fun text => ?_
    unfold OrderService.byId
    cases Rejection.readId "order id" text with
    | error cause => rfl
    | ok id => exact consult_eq fun _ => rfl

/-- A request either comes to a response at once or to the task of its resource, if that has the
method. -/
theorem dispatch_cases (request : Request) :
    (∃ response : Response, response.status ∈ [404, 405] ∧
        dispatch (.inDatabase limit) request = .answered response) ∨
      ∃ route, Route.ofPath? request.path = some route ∧ route.allows request.method = true ∧
        dispatch (.inDatabase limit) request =
          (if request.method = "HEAD" then
            Response.withoutBody <$> (Task.of request route).action limit route.status
          else (Task.of request route).action limit route.status) := by
  unfold dispatch
  cases found : Route.ofPath? request.path with
  | none => exact Or.inl ⟨_, by decide, rfl⟩
  | some route =>
    dsimp only
    cases allowed : route.allows request.method with
    | false => exact Or.inl ⟨(Response.ofStatus 405).withHeaders _, List.mem_cons_of_mem _
        (List.mem_singleton_self _), rfl⟩
    | true =>
      refine Or.inr ⟨route, rfl, allowed, ?_⟩
      rw [handle_eq]
      by_cases head : request.method = "HEAD"
      · rw [if_pos head, head]
        rfl
      · rw [if_neg head, beq_false_of_ne head]
        rfl

/-- No resource has the method `OPTIONS`. -/
theorem ne_options_of_allows {route : Route} {method : String} (allowed : route.allows method = true) :
    method ≠ "OPTIONS" := by
  rintro rfl
  cases route <;> cases allowed

/-- A question what is allowed would come to a response at once. -/
theorem dispatch_options {request : Request} (options : request.method = "OPTIONS") :
    ∃ response, dispatch (.inDatabase limit) request = .answered response := by
  obtain ⟨response, _, same⟩ | ⟨route, _, allowed, _⟩ := @dispatch_cases limit request
  · exact ⟨response, same⟩
  · exact absurd options (ne_options_of_allows allowed)

/-- A request with a method of its resource, other than `HEAD`, comes to the task of the resource. -/
theorem dispatch_eq {request : Request} {route : Route} (found : Route.ofPath? request.path = some route)
    (allowed : route.allows request.method = true) (other : request.method ≠ "HEAD") :
    dispatch (.inDatabase limit) request = (Task.of request route).action limit route.status := by
  unfold dispatch
  rw [found]
  dsimp only
  rw [allowed, beq_false_of_ne other, handle_eq]
  rfl

end Handler

/-! ### Responses -/

namespace App

variable {app : App} {environment : Environment} {request : Request} {machine : Machine}

/-- How the work on a request ends. -/
def attend [Collation] (app : App) (environment : Environment) (request : Request) (machine : Machine) :
    Machine × Ending Response :=
  (requestId environment request machine).1.perform environment (some app.limit)
    (Handler.dispatch app.services request)

/-- A response says how the work on its request has ended. -/
theorem respond_eq [Collation] (method : request.method ≠ "OPTIONS") :
    (app.respond environment request machine).1 = (app.attend environment request machine).1 ∧
      (app.respond environment request machine).2.status =
        (conclude (app.attend environment request machine).2).status ∧
      (app.respond environment request machine).2.body =
        (conclude (app.attend environment request machine).2).body := by
  unfold respond attend
  rw [if_neg method]
  dsimp only
  refine ⟨rfl, ?_, ?_⟩
  · rw [Cors.extend, Response.status_withHeaders, Response.status_withHeaders]
  · rw [Cors.extend, Response.body_withHeaders, Response.body_withHeaders]

/-- A request to read at a resource comes to the task of the resource. -/
theorem attend_get [Collation] {limit : Option Duration} {route : Route}
    (services : app.services = .inDatabase limit) (method : request.method = "GET")
    (path : Route.ofPath? request.path = some route)
    (allows : route.allows "GET" = true) :
    app.attend environment request machine =
      (requestId environment request machine).1.perform environment (some app.limit)
        ((Task.of request route).action limit route.status) := by
  unfold attend
  rw [services, Handler.dispatch_eq path (method ▸ allows) (by rw [method]; decide)]

/-- A question what is allowed changes nothing. -/
theorem respond_options [Collation] (method : request.method = "OPTIONS") :
    (app.respond environment request machine).1 = machine := by
  unfold respond
  rw [if_pos method]

/-- The identifier of a request may be a fresh one; nothing else changes for it. -/
theorem requestId_cases (environment : Environment) (request : Request) (machine : Machine) :
    (requestId environment request machine).1 = machine ∨
      (requestId environment request machine).1 = { machine with ids := machine.ids + 1 } := by
  unfold requestId
  split
  · exact Or.inl rfl
  · exact Or.inr rfl

theorem tables_requestId : (requestId environment request machine).1.tables = machine.tables := by
  rcases requestId_cases environment request machine with same | same <;> rw [same]

theorem sent_requestId : (requestId environment request machine).1.sent = machine.sent := by
  rcases requestId_cases environment request machine with same | same <;> rw [same]

theorem pool_requestId : (requestId environment request machine).1.pool = machine.pool := by
  rcases requestId_cases environment request machine with same | same <;> rw [same]

/-- At most one identifier is given out for it. -/
theorem ids_requestId : machine.ids ≤ (requestId environment request machine).1.ids ∧
    (requestId environment request machine).1.ids ≤ machine.ids + 1 := by
  rcases requestId_cases environment request machine with same | same <;> rw [same]
  · exact ⟨Nat.le_refl _, Nat.le_succ _⟩
  · exact ⟨Nat.le_succ _, Nat.le_refl _⟩

/-- A server that has been built works on the database. -/
theorem services_of_build? {settings : ServerSettings} {limit : Option Duration}
    (built : build? settings limit = some app) : app.services = .inDatabase limit := by
  obtain ⟨cors, _, rfl⟩ := Option.map_eq_some_iff.mp built
  rfl

end App

end Storefront
