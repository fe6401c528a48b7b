/-
**What clients learn of failures.**

However the database fails while a request waits for it, and whatever it says about that, the client is
told that something has failed inside, in always the same words.  Only a value that is there already is
told apart, where no order is made, and of that nothing but the name of the constraint.

Main statements:

* `Handler.dispatch_failsAs`: the first failure decides the response;
* `App.respond_discreet`: texts of errors make no difference, and what is said of a failure.
-/

import Storefront.Proofs.Http.Frame
import Storefront.Proofs.Store.Conduct

namespace Storefront

/-- What is said of a failure of the database at a resource. -/
def Route.failure (route : Route) (cause : DriverError) : ErrorAnswer :=
  if route = .orders then .internal else .ofStore (.ofDriver cause)

/-- A response to the request, which has no text if only the head is asked for. -/
def Request.fitted (request : Request) (response : Response) : Response :=
  if request.method = "HEAD" then { response with body := "" } else response

/-- The response when the database fails at a resource. -/
def Request.failed (request : Request) (route : Route) (cause : DriverError) : Response :=
  request.fitted (route.failure cause).response

/-! ### What is said -/

/-- Of a value that is there already nothing is said but the name of the constraint. -/
theorem Route.failure_duplicate {route : Route} (other : route ≠ .orders) {report : Report}
    (code : report.code = some "23505") :
    route.failure (.refused report) =
      ⟨409, "CONFLICT",
        "Duplicate value violates unique constraint: " ++ report.constraint.getD "unknown"⟩ := by
  have violated : (DriverError.refused report).violatedUnique? = some (report.constraint.getD "unknown") :=
    if_pos code
  rw [failure, if_neg other, StoreError.ofDriver, violated]
  rfl

/-- Of all other failures always the same is said. -/
theorem Route.failure_internal {route : Route} {cause : DriverError}
    (plain : route = .orders ∨ ∀ report, cause = .refused report → report.code ≠ some "23505") :
    route.failure cause = ErrorAnswer.internal := by
  obtain orders | plain := plain
  · rw [failure, if_pos orders]
  · have violated : cause.violatedUnique? = none := by
      cases cause with
      | refused report => exact if_neg (plain report rfl)
      | _ => rfl
    unfold failure
    split
    · rfl
    · rw [StoreError.ofDriver, violated]
      rfl

/-- What is said does not show the texts of errors. -/
theorem Route.failure_bare (route : Route) {cause other : DriverError} (texts : cause.bare = other.bare) :
    route.failure cause = route.failure other := by
  have violated : cause.violatedUnique? = other.violatedUnique? := by
    rw [← cause.violatedUnique?_bare, texts, other.violatedUnique?_bare]
  unfold failure
  split
  · rfl
  · unfold StoreError.ofDriver
    rw [violated]
    cases other.violatedUnique? <;> rfl

/-! ### Requests -/

namespace Task

variable {request : Request} {route : Route} {α : Type}

/-- A request makes an order exactly where orders are made. -/
theorem makesOrder_of_call {call : StoreCall} (asked : of request route = .call call) :
    call.makesOrder = true ↔ route = .orders := by
  obtain ⟨input, rfl, rfl⟩ | ⟨input, rfl, rfl⟩ | ⟨reads, writes⟩ := Task.call_cases asked
  · exact ⟨nofun, nofun⟩
  · exact ⟨fun _ => rfl, fun _ => rfl⟩
  · constructor
    · intro makes
      cases call with
      | createOrder input => exact absurd (Or.inl rfl) (writes .orders)
      | _ => cases makes
    · rintro rfl
      cases reads

theorem withPart_eq_health {part : Except Response α} {next : α → Task}
    (same : withPart part next = .health) : ∃ value, next value = .health := by
  cases part with
  | ok value => exact ⟨value, same⟩
  | error response => cases same

theorem accepted_ne_health {result : Except Rejection α} {call : α → StoreCall} :
    accepted result (fun value => .call (call value)) ≠ .health := by
  cases result <;> exact nofun

/-- Health is looked at only where it is asked for. -/
theorem of_ne_health (api : route ≠ .health) : of request route ≠ .health := by
  intro asked
  cases route with
  | health => exact api rfl
  | accounts =>
    obtain ⟨_, asked⟩ := withPart_eq_health asked
    exact accepted_ne_health asked
  | account raw =>
    obtain ⟨_, asked⟩ := withPart_eq_health asked
    exact accepted_ne_health asked
  | accountOrders raw =>
    obtain ⟨_, asked⟩ := withPart_eq_health asked
    obtain ⟨_, asked⟩ := withPart_eq_health asked
    exact accepted_ne_health asked
  | items =>
    obtain ⟨_, asked⟩ := withPart_eq_health asked
    cases asked
  | item raw =>
    obtain ⟨_, asked⟩ := withPart_eq_health asked
    exact accepted_ne_health asked
  | orders =>
    obtain ⟨_, asked⟩ := withPart_eq_health asked
    exact accepted_ne_health asked
  | order raw =>
    obtain ⟨_, asked⟩ := withPart_eq_health asked
    exact accepted_ne_health asked

end Task

/-- The response to a call that has failed. -/
theorem StoreCall.response_failed (call : StoreCall) (cause : StoreError) (status : Nat) :
    (call.failed cause).response status = (ErrorAnswer.ofStore cause).response := by
  cases call <;> rfl

namespace Handler

variable {request : Request} {route : Route} {limit : Option Duration}

theorem task_failsAs (api : route ≠ .health) :
    ((Task.of request route).action limit route.status).program.FailsAs
      fun cause => (route.failure cause).response := by
  cases asked : Task.of request route with
  | answer response => trivial
  | health => exact absurd asked (Task.of_ne_health api)
  | call call =>
    have said : (fun cause => (route.failure cause).response) =
        fun cause => (call.failed (call.failure cause)).response route.status := by
      funext cause
      rw [StoreCall.response_failed, Route.failure, StoreCall.failure]
      by_cases makes : call.makesOrder = true
      · rw [if_pos makes, if_pos ((Task.makesOrder_of_call asked).mp makes)]
        rfl
      · rw [if_neg makes, if_neg fun orders => makes ((Task.makesOrder_of_call asked).mpr orders)]
    rw [said]
    refine Action.failsAs_program_map ?_
    rw [StoreCall.program_action]
    exact call.program_failsAs

/-- What a failure makes of a task, it makes of the request. -/
theorem dispatch_failsAs_of_task (found : Route.ofPath? request.path = some route)
    {fail : DriverError → Response}
    (task : ((Task.of request route).action limit route.status).program.FailsAs fail) :
    (dispatch (.inDatabase limit) request).program.FailsAs fun cause => request.fitted (fail cause) := by
  obtain ⟨response, _, same⟩ | ⟨other, found', _, same⟩ := @dispatch_cases limit request
  · rw [same]
    trivial
  · cases found.symm.trans found'
    rw [same]
    by_cases head : request.method = "HEAD"
    · have said : (fun cause => request.fitted (fail cause)) = fun cause => (fail cause).withoutBody :=
        funext fun cause => if_pos head
      rw [said, if_pos head]
      exact Action.failsAs_program_map task
    · have said : (fun cause => request.fitted (fail cause)) = fail := funext fun cause => if_neg head
      rw [said, if_neg head]
      exact task

/-- **The first failure decides the response**, and does so in the same way whatever has been answered
before. -/
theorem dispatch_failsAs (found : Route.ofPath? request.path = some route) (api : route ≠ .health) :
    (dispatch (.inDatabase limit) request).program.FailsAs (request.failed route) :=
  dispatch_failsAs_of_task found (task_failsAs api)

/-- Nowhere does a response to a failure show the texts of errors, also not where the health of the
database is asked for. -/
theorem dispatch_hides (limit : Option Duration) (request : Request) :
    ∃ fail : DriverError → Response, (dispatch (.inDatabase limit) request).program.FailsAs fail ∧
      ∀ cause other : DriverError, cause.bare = other.bare → fail cause = fail other := by
  cases found : Route.ofPath? request.path with
  | none =>
    refine ⟨fun _ => .ofStatus 404, ?_, fun _ _ _ => rfl⟩
    unfold dispatch
    rw [found]
    trivial
  | some route =>
    by_cases api : route = .health
    · subst api
      have ping : Health.check.program.FailsAs _ := Health.ping_conducted.failsAs
      have task : ((Task.of request .health).action limit Route.health.status).program.FailsAs _ :=
        Action.failsAs_program_map ping
      exact ⟨_, dispatch_failsAs_of_task found task, fun _ _ _ => rfl⟩
    · refine ⟨request.failed route, dispatch_failsAs found api, fun cause other texts => ?_⟩
      rw [Request.failed, Request.failed, route.failure_bare texts]

end Handler

/-! ### Responses -/

namespace App

variable {app : App} {environment : Environment} {request : Request} {machine : Machine}

/-- The moments of the work on a request. -/
def moments [Collation] (app : App) (environment : Environment) (request : Request)
    (machine : Machine) :
    List Moment :=
  (requestId environment request machine).1.moments environment (some app.limit)
    (Handler.dispatch app.services request)

/-- The headers of a response apart from the identifier of its request. -/
def anonymous (response : Response) : Headers :=
  response.headers.filter fun header => header.1 != requestIdHeader

/-- In environments that differ in texts of errors only, and perhaps in the identifier of the request,
a server does the same and answers the same. -/
theorem respond_alike [Collation] {limit : Option Duration} {first second : Environment}
    (services : app.services = .inDatabase limit)
    (alike : first.Alike (requestId first request machine).1.ids second) :
    (app.respond first request machine).1 = (app.respond second request machine).1 ∧
      (app.respond first request machine).2.status = (app.respond second request machine).2.status ∧
      (app.respond first request machine).2.body = (app.respond second request machine).2.body ∧
      anonymous (app.respond first request machine).2 =
        anonymous (app.respond second request machine).2 := by
  have same : (requestId first request machine).1 = (requestId second request machine).1 := by
    unfold requestId
    split <;> rfl
  obtain ⟨fail, fails, hides⟩ := Handler.dispatch_hides limit request
  have performed : (requestId first request machine).1.perform first (some app.limit)
        (Handler.dispatch app.services request) =
      (requestId second request machine).1.perform second (some app.limit)
        (Handler.dispatch app.services request) := by
    rw [services, ← same]
    exact Machine.perform_alike fails hides alike
  unfold respond
  split
  · exact ⟨rfl, rfl, rfl, rfl⟩
  · dsimp only
    rw [performed]
    refine ⟨rfl, rfl, rfl, ?_⟩
    simp [anonymous, Cors.extend, Response.withHeaders, List.filter_append]

/-- A failure that a request has heard of decides its response. -/
theorem respond_of_failure [Collation] {limit : Option Duration}
    (services : app.services = .inDatabase limit) {route : Route}
    (found : Route.ofPath? request.path = some route) (api : route ≠ .health)
    {moment : Moment} (met : moment ∈ app.moments environment request machine)
    {answer : moment.call.Answer} (heard : moment.reply = .answer answer) {cause : DriverError}
    (failure : moment.call.failure? answer = some cause) :
    (app.respond environment request machine).2.status = (request.failed route cause).status ∧
      (app.respond environment request machine).2.body = (request.failed route cause).body := by
  unfold moments at met
  rw [services] at met
  have method : request.method ≠ "OPTIONS" := by
    intro options
    obtain ⟨response, same⟩ := @Handler.dispatch_options limit request options
    rw [same] at met
    cases met
  have ended : (app.attend environment request machine).2 = .finished (request.failed route cause) := by
    unfold attend
    rw [services]
    exact Machine.perform_of_failure (Handler.dispatch_failsAs found api) met heard failure
  rw [(respond_eq method).2.1, (respond_eq method).2.2, ended]
  exact ⟨rfl, rfl⟩

/-- **What clients learn of failures.** Texts of errors make no difference to what is answered.  At a
resource other than the health of the database any failure, at any call and whatever has been
answered before, is answered 500 in always the same words; where no order is made a value that is
there already is answered 409, and nothing of it is named but the constraint. -/
theorem respond_discreet [Collation] {settings : ServerSettings} {limit : Option Duration}
    (built : build? settings limit = some app) (request : Request) (machine : Machine) :
    (∀ first second : Environment, first.Alike (requestId first request machine).1.ids second →
      (app.respond first request machine).1 = (app.respond second request machine).1 ∧
        (app.respond first request machine).2.status = (app.respond second request machine).2.status ∧
        (app.respond first request machine).2.body = (app.respond second request machine).2.body ∧
        anonymous (app.respond first request machine).2 =
          anonymous (app.respond second request machine).2) ∧
      ∀ route, Route.ofPath? request.path = some route → route ≠ .health →
        (Handler.dispatch app.services request).program.FailsAs (request.failed route) ∧
          (∀ environment, ∀ moment ∈ app.moments environment request machine, ∀ answer cause,
            moment.reply = .answer answer → moment.call.failure? answer = some cause →
            (app.respond environment request machine).2.status = (request.failed route cause).status ∧
              (app.respond environment request machine).2.body = (request.failed route cause).body) ∧
          ∀ cause,
            ((route = .orders ∨ ∀ report, cause = .refused report → report.code ≠ some "23505") →
              request.failed route cause = request.fitted {
                status := 500
                headers := [("content-type", "application/json")]
                body := (Json.Value.object [("error", .text "An internal error occurred"),
                  ("code", .text "INTERNAL_ERROR")]).render }) ∧
            ∀ report, route ≠ .orders → cause = .refused report → report.code = some "23505" →
              request.failed route cause = request.fitted {
                status := 409
                headers := [("content-type", "application/json")]
                body := (Json.Value.object [("error", .text
                  ("Duplicate value violates unique constraint: " ++ report.constraint.getD "unknown")),
                  ("code", .text "CONFLICT")]).render } := by
  have services := services_of_build? built
  refine ⟨fun first second => respond_alike services, fun route found api => ⟨?_, ?_, ?_⟩⟩
  · rw [services]
    exact Handler.dispatch_failsAs found api
  · intro environment moment met answer cause heard failure
    exact respond_of_failure services found api met heard failure
  · refine fun cause => ⟨fun plain => ?_, fun report other refused code => ?_⟩
    · rw [Request.failed, Route.failure_internal plain]
      rfl
    · subst refused
      rw [Request.failed, Route.failure_duplicate other code]
      rfl

/-- An environment in which every statement is refused as if a value were there already. -/
def refusing (message : String) : Environment :=
  { Environment.sample with fate := fun _ _ => .refused ⟨some "23505", none, message⟩ }

/-- A wish for an item. -/
def itemWish : Request where
  target := "/api/v1/item/00000000-0000-4000-8000-000000000001"

/-- An item is asked for, and the statement is refused with one text or another. -/
theorem respond_discreet_sample :
    ∃ app : App, build? {} none = some app ∧
      (refusing "secret").Alike (requestId (refusing "secret") itemWish {}).1.ids (refusing "other") ∧
      (app.respond (refusing "secret") itemWish {}).2.body =
        (app.respond (refusing "other") itemWish {}).2.body ∧
      (∃ moment ∈ app.moments (refusing "secret") itemWish {}, ∃ answer,
        moment.reply = .answer answer ∧
          moment.call.failure? answer = some (.refused ⟨some "23505", none, "secret"⟩)) ∧
      (app.respond (refusing "secret") itemWish {}).2.status = 409 ∧
      (app.respond (refusing "secret") itemWish {}).2.body =
        (Json.Value.object [("error", .text "Duplicate value violates unique constraint: unknown"),
          ("code", .text "CONFLICT")]).render := by
  have built : build? {} none =
      some ⟨⟨["http://localhost:5173"]⟩, .inDatabase none, .ofSeconds 30⟩ := rfl
  have alike : (refusing "secret").Alike (requestId (refusing "secret") itemWish {}).1.ids
      (refusing "other") := ⟨fun _ _ => rfl, rfl, rfl, fun _ _ => rfl⟩
  have found : Route.ofPath? itemWish.path =
      some (.item "00000000-0000-4000-8000-000000000001".toList) := by decide +kernel
  have dispatched : Handler.dispatch (.inDatabase none) itemWish =
      (Task.call (.itemById (.numbered 1))).action none 200 := by
    have text : Extract.id "00000000-0000-4000-8000-000000000001".toList =
        .ok "00000000-0000-4000-8000-000000000001" := by decide +kernel
    have read : Rejection.readId "item id" "00000000-0000-4000-8000-000000000001" =
        .ok (.numbered 1) := by decide +kernel
    rw [Handler.dispatch_eq found (by decide) (by decide), Task.of, text, Task.withPart, read]
    rfl
  have met : ∃ moment ∈ moments ⟨⟨["http://localhost:5173"]⟩, .inDatabase none, .ofSeconds 30⟩
      (refusing "secret") itemWish {}, ∃ answer, moment.reply = .answer answer ∧
        moment.call.failure? answer = some (.refused ⟨some "23505", none, "secret"⟩) := by
    unfold moments
    rw [dispatched]
    exact ⟨_, List.mem_cons_of_mem _ List.mem_cons_self, _, rfl, rfl⟩
  obtain ⟨same, discreet⟩ := respond_discreet built itemWish {}
  obtain ⟨_, heard, said⟩ := discreet _ found nofun
  obtain ⟨moment, member, answer, reply, failure⟩ := met
  have ended := heard _ _ member _ _ reply failure
  rw [(said _).2 _ nofun rfl rfl] at ended
  exact ⟨_, built, alike, (same _ _ alike).2.2.1, ⟨_, member, _, reply, failure⟩, ended.1, ended.2⟩

end App

end Storefront
