/-
**Limits around requests.**

A request waits within two limits: the one of the operation on the database, and the one of the server
around all of it.  Each of them is for all waits together, so the time that they take in sum decides, and
how it is spread over the waits does not.  A request in time is answered as if there were no limits.
Otherwise the shorter limit decides: at the one of the operation the answer is that of a store, 504, and at
the one of the server it is 408; and nothing is sent any more but the end of a transaction.

Main statements:

* `Handler.dispatch_limited`: the limit for operations changes nothing but the answer when it has passed;
* `App.respond_limited`: what the limits make of a request.
-/

import Storefront.Proofs.Http.Discretion
import Storefront.Proofs.Http.Orders
import Storefront.Proofs.Program.Limits

namespace Storefront

/-! ### Limits for operations -/

/-- A call is answered at once, or it is a program with the answer for the time when a limit has passed. -/
theorem StoreCall.action_cases (call : StoreCall) :
    (∃ answer, ∀ limit, call.action limit = .answered answer) ∨
      ∀ limit, call.action limit = .waiting
        (limit.map fun duration => (duration, call.failed (.timeout duration))) call.program := by
  have waits : ∀ {α : Type} (limit : Option Duration) (answer : Except StoreError α → StoreAnswer)
      (operation : Operation α), (answer <$> operation.within limit) =
        .waiting (limit.map fun duration => (duration, answer (.error (.timeout duration))))
          (answer <$> operation.within none).program := by
    intro α limit answer operation
    cases limit <;> rfl
  cases call with
  | accountById id => exact .inr fun limit => waits limit _ _
  | accountByEmail email => exact .inr fun limit => waits limit _ _
  | createAccount input =>
    cases input with
    | none => exact .inl ⟨_, fun _ => rfl⟩
    | some input => exact .inr fun limit => waits limit _ _
  | itemById id => exact .inr fun limit => waits limit _ _
  | itemPage request =>
    unfold program action ItemStore.inDatabase
    dsimp only
    cases request.sort.check ItemStore.sortable with
    | error cause => exact .inl ⟨_, fun _ => rfl⟩
    | ok sort => exact .inr fun limit => waits limit _ _
  | createItem input =>
    cases input with
    | none => exact .inl ⟨_, fun _ => rfl⟩
    | some input => exact .inr fun limit => waits limit _ _
  | orderById id => exact .inr fun limit => waits limit _ _
  | orderSearch accountId request =>
    unfold program action OrderStore.inDatabase
    dsimp only
    cases request.sort.check OrderStore.sortable with
    | error cause => exact .inl ⟨_, fun _ => rfl⟩
    | ok sort => exact .inr fun limit => waits limit _ _
  | createOrder input =>
    cases input with
    | none => exact .inl ⟨_, fun _ => rfl⟩
    | some input => exact .inr fun limit => waits limit _ _

/-- The response when the limit for operations has passed. -/
def Request.overdue (request : Request) (query : Duration) : Response :=
  request.fitted (ErrorAnswer.response ⟨504, "TIMEOUT", (StoreError.timeout query).text⟩)

theorem Request.status_fitted (request : Request) (response : Response) :
    (request.fitted response).status = response.status := by
  unfold fitted
  split <;> rfl

theorem Request.body_fitted (request : Request) (response : Response) :
    (request.fitted response).body = if request.method = "HEAD" then "" else response.body := by
  unfold fitted
  split <;> rfl

namespace Handler

variable {request : Request} {route : Route}

/-- A task is answered at once, or it is a program with the response for the time when a limit has
passed. -/
theorem task_limited (request : Request) (api : route ≠ .health) :
    (∃ response, ∀ limit, (Task.of request route).action limit route.status = .answered response) ∨
      ∃ program, ∀ limit, (Task.of request route).action limit route.status = .waiting
        (limit.map fun duration => (duration, (ErrorAnswer.ofStore (.timeout duration)).response))
        program := by
  cases asked : Task.of request route with
  | answer response => exact .inl ⟨response, fun _ => rfl⟩
  | health => exact absurd asked (Task.of_ne_health api)
  | call call =>
    obtain ⟨answer, same⟩ | same := call.action_cases
    · refine .inl ⟨answer.response route.status, fun limit => ?_⟩
      exact congrArg (StoreAnswer.response _ <$> ·) (same limit)
    · refine .inr ⟨call.program >>= fun answer => .done (answer.response route.status), fun limit => ?_⟩
      rw [Task.action, same, Action.map_waiting, Option.map_map]
      congr 2
      funext duration
      exact congrArg (Prod.mk duration) (call.response_failed (.timeout duration) route.status)

/-- **The limit for operations changes nothing but the answer when it has passed.** -/
theorem dispatch_limited (found : Route.ofPath? request.path = some route) (api : route ≠ .health) :
    (∃ response, ∀ limit, dispatch (.inDatabase limit) request = .answered response) ∨
      ∃ program, ∀ limit, dispatch (.inDatabase limit) request = .waiting
        (limit.map fun duration => (duration, request.overdue duration)) program := by
  unfold dispatch
  rw [found]
  dsimp only
  by_cases allowed : route.allows request.method = true
  · rw [allowed]
    by_cases head : request.method = "HEAD"
    · have said : ∀ duration, request.overdue duration =
          (ErrorAnswer.ofStore (.timeout duration)).response.withoutBody := fun _ => if_pos head
      simp only [said, head]
      obtain ⟨response, same⟩ | ⟨program, same⟩ := task_limited request api
      · refine .inl ⟨response.withoutBody, fun limit => ?_⟩
        rw [handle_eq, same]
        rfl
      · refine .inr ⟨program >>= fun response => .done response.withoutBody, fun limit => ?_⟩
        rw [handle_eq, same]
        cases limit <;> rfl
    · have said : ∀ duration, request.overdue duration =
          (ErrorAnswer.ofStore (.timeout duration)).response := fun _ => if_neg head
      simp only [said, beq_false_of_ne head]
      obtain ⟨response, same⟩ | ⟨program, same⟩ := task_limited request api
      · refine .inl ⟨response, fun limit => ?_⟩
        rw [handle_eq, same]
        rfl
      · refine .inr ⟨program, fun limit => ?_⟩
        rw [handle_eq, same]
        rfl
  · rw [Bool.not_eq_true] at allowed
    rw [allowed]
    exact .inl ⟨_, fun _ => rfl⟩

end Handler

/-! ### Requests -/

namespace App

/-- What a server does with a request that may take as long as a limit allows. -/
def respondWithin [Collation] (app : App) (outer : Option Duration) (environment : Environment)
    (request : Request) (machine : Machine) : Machine × Response :=
  if request.method = "OPTIONS" then (machine, app.cors.preflight request)
  else
    let (machine, id) := requestId environment request machine
    let (machine, ending) := machine.perform environment outer (Handler.dispatch app.services request)
    let response := (conclude ending).withHeaders [(requestIdHeader, id)]
    (machine, app.cors.extend request response)

/-- What it does if there is no limit for anything. -/
def respondUnlimited [Collation] (app : App) (environment : Environment) (request : Request)
    (machine : Machine) :
    Machine × Response :=
  respondWithin { app with services := .inDatabase none } none environment request machine

/-- How long all waits for a request take together when there is no limit. -/
noncomputable def waiting [Collation] (environment : Environment) (request : Request)
    (machine : Machine) : ℕ∞ :=
  (requestId environment request machine).1.waiting environment
    (Handler.dispatch (.inDatabase none) request)

/-- The statements that are sent for a request without a limit, as long as a limit has not passed. -/
def sentWithin [Collation] (environment : Environment) (limit : Duration) (request : Request)
    (machine : Machine) :
    List Statement :=
  (requestId environment request machine).1.sentWithin environment (some limit)
    (Handler.dispatch (.inDatabase none) request)

/-- The limit that passes first; the one of the operation if both are equal. -/
def shorter (query : Option Duration) (limit : Duration) : Duration :=
  match query with
  | none => limit
  | some query => if query.nanos ≤ limit.nanos then query else limit

variable {app : App} {environment : Environment} {request : Request} {machine : Machine}
  {query : Option Duration}

/-- A server does what it does within its own limit. -/
theorem respond_eq_respondWithin [Collation] :
    app.respond environment request machine =
      app.respondWithin (some app.limit) environment request machine := rfl

theorem bound_eq_shorter {α : Type} (query : Option Duration) (limit : Duration) (instead : Duration → α) :
    Machine.bound (query.map fun duration => (duration, instead duration)) (some limit) =
      some (shorter query limit) := by
  cases query with
  | none => rfl
  | some query =>
    unfold Machine.bound shorter
    simp only [Option.map_some, Machine.decides, decide_eq_true_eq]
    split <;> rfl

/-- The response when the shorter limit has passed: that of the store if it is the one of the store. -/
def late (request : Request) (query : Option Duration) (limit : Duration) : Response :=
  match query with
  | none => .ofStatus 408
  | some query => if query.nanos ≤ limit.nanos then request.overdue query else .ofStatus 408

theorem conclude_standIn (request : Request) (query : Option Duration) (limit : Duration) :
    conclude (Machine.standIn (query.map fun duration => (duration, request.overdue duration))
        (some limit) .abandoned) = late request query limit := by
  unfold late
  cases query with
  | none => rfl
  | some query =>
    simp only [Option.map_some, Machine.standIn, Machine.decides, decide_eq_true_eq]
    split <;> rfl

theorem shorter_of_le {own limit : Duration} (first : own.nanos ≤ limit.nanos) :
    shorter (some own) limit = own := if_pos first

theorem late_of_le {own limit : Duration} (first : own.nanos ≤ limit.nanos) :
    late request (some own) limit = request.overdue own := if_pos first

theorem shorter_of_lt (request : Request) {limit : Duration}
    (last : ∀ own ∈ query, limit.nanos < own.nanos) :
    shorter query limit = limit ∧ late request query limit = .ofStatus 408 := by
  cases query with
  | none => exact ⟨rfl, rfl⟩
  | some own =>
    have longer : ¬ own.nanos ≤ limit.nanos := not_le.mpr (last own rfl)
    exact ⟨if_neg longer, if_neg longer⟩

theorem le_shorter {time : ℕ∞} {limit : Duration} (before : time ≤ limit.nanos)
    (within : ∀ own ∈ query, time ≤ own.nanos) : time ≤ (shorter query limit).nanos := by
  cases query with
  | none => exact before
  | some own =>
    unfold shorter
    dsimp only
    split
    · exact within own rfl
    · exact before

/-- A request that is answered at once has nothing to wait for. -/
theorem respond_of_answered [Collation] (services : app.services = .inDatabase query)
    {response : Response}
    (same : ∀ limit, Handler.dispatch (.inDatabase limit) request = .answered response)
    (environment : Environment) (machine : Machine) :
    waiting environment request machine = 0 ∧
      app.respond environment request machine = app.respondUnlimited environment request machine ∧
      (app.respond environment request machine).1.sent =
        machine.sent ++ sentWithin environment (shorter query app.limit) request machine ++ [] := by
  have alike : app.respond environment request machine =
      app.respondUnlimited environment request machine := by
    unfold respondUnlimited respondWithin respond
    split
    · rfl
    · dsimp only
      rw [services, same, same]
      rfl
  refine ⟨?_, alike, ?_⟩
  · unfold waiting
    rw [same]
    rfl
  · have nothing : sentWithin environment (shorter query app.limit) request machine = [] := by
      unfold sentWithin
      rw [same]
      rfl
    rw [nothing, List.append_nil, List.append_nil]
    by_cases options : request.method = "OPTIONS"
    · rw [respond_options options]
    · rw [(respond_eq options).1, attend, services, same]
      exact sent_requestId

section Programs

variable [Collation] {program : Program Response}

/-- Work on a request that waits is the run of its program within the shorter limit. -/
theorem attend_of_program (services : app.services = .inDatabase query)
    (same : ∀ limit, Handler.dispatch (.inDatabase limit) request =
      .waiting (limit.map fun duration => (duration, request.overdue duration)) program) :
    app.attend environment request machine =
      (((requestId environment request machine).1.run environment (some (shorter query app.limit))
          program).1,
        Machine.standIn (query.map fun duration => (duration, request.overdue duration)) (some app.limit)
          ((requestId environment request machine).1.run environment (some (shorter query app.limit))
            program).2) := by
  unfold attend
  rw [services, same, Machine.perform_waiting, bound_eq_shorter]

/-- A request whose waits keep the shorter limit is responded to as if there were no limits. -/
theorem respond_of_waiting_le (services : app.services = .inDatabase query)
    (same : ∀ limit, Handler.dispatch (.inDatabase limit) request =
      .waiting (limit.map fun duration => (duration, request.overdue duration)) program)
    (early : waiting environment request machine ≤ (shorter query app.limit).nanos) :
    app.respond environment request machine = app.respondUnlimited environment request machine := by
  unfold waiting at early
  rw [same] at early
  have kept := Machine.run_of_waiting_le early
  have ended := Machine.run_ne_abandoned (early.trans_lt (ENat.natCast_lt_top _)).ne
  have performed : app.attend environment request machine =
      (requestId environment request machine).1.perform environment none
        (Handler.dispatch (.inDatabase none) request) := by
    rw [attend_of_program services same, kept, same, Machine.perform_waiting]
    refine congrArg (Prod.mk _) ?_
    change Machine.standIn _ _ ((requestId environment request machine).1.run environment none program).2 =
      Machine.standIn _ _ ((requestId environment request machine).1.run environment none program).2
    cases ending : ((requestId environment request machine).1.run environment none program).2 with
    | finished response => rfl
    | abandoned => exact absurd ending ended
    | crashed => rfl
  unfold attend at performed
  unfold respondUnlimited respondWithin respond
  split
  · rfl
  · dsimp only
    rw [performed]

/-- A request whose waits do not keep the shorter limit is responded to for this limit. -/
theorem respond_of_lt_waiting (services : app.services = .inDatabase query)
    (same : ∀ limit, Handler.dispatch (.inDatabase limit) request =
      .waiting (limit.map fun duration => (duration, request.overdue duration)) program)
    (passed : (shorter query app.limit).nanos < waiting environment request machine) :
    conclude (app.attend environment request machine).2 = late request query app.limit := by
  unfold waiting at passed
  rw [same] at passed
  rw [attend_of_program services same, Machine.run_of_lt_waiting passed, conclude_standIn]

/-- For a request that waits nothing is sent after the shorter limit but the end of a transaction. -/
theorem sent_respond_of_program (services : app.services = .inDatabase query)
    (same : ∀ limit, Handler.dispatch (.inDatabase limit) request =
      .waiting (limit.map fun duration => (duration, request.overdue duration)) program)
    (method : request.method ≠ "OPTIONS") :
    ∃ parting, (parting = [] ∨ parting = [⟨.rollback, []⟩]) ∧
      (app.respond environment request machine).1.sent =
        machine.sent ++ sentWithin environment (shorter query app.limit) request machine ++ parting := by
  obtain ⟨parting, ends, sent⟩ := Machine.sent_run_within environment none (some (shorter query app.limit))
    program (requestId environment request machine).1
  refine ⟨parting, ends, ?_⟩
  rw [(respond_eq method).1, attend_of_program services same, sent, sent_requestId, sentWithin, same]
  rfl

end Programs

/-- **The limits are for all waits together, and the shorter one decides.** -/
theorem respond_limited [Collation] (services : app.services = .inDatabase query) {route : Route}
    (found : Route.ofPath? request.path = some route) (api : route ≠ .health)
    (environment : Environment) (machine : Machine) :
    (waiting environment request machine < app.limit.nanos →
      (∀ own ∈ query, waiting environment request machine < own.nanos) →
        app.respond environment request machine = app.respondUnlimited environment request machine) ∧
    (∀ own ∈ query, own.nanos < app.limit.nanos → own.nanos < waiting environment request machine →
      (app.respond environment request machine).2.status = 504 ∧
        (app.respond environment request machine).2.body = (if request.method = "HEAD" then "" else
          (Json.Value.object [("error", .text ("Query timed out after " ++ own.text)),
            ("code", .text "TIMEOUT")]).render)) ∧
    ((∀ own ∈ query, app.limit.nanos < own.nanos) →
      app.limit.nanos < waiting environment request machine →
        (app.respond environment request machine).2.status = 408 ∧
          (app.respond environment request machine).2.body = "") ∧
    ∃ parting, (parting = [] ∨ parting = [⟨.rollback, []⟩]) ∧
      (app.respond environment request machine).1.sent =
        machine.sent ++ sentWithin environment (shorter query app.limit) request machine ++ parting := by
  obtain ⟨response, same⟩ | ⟨program, same⟩ := Handler.dispatch_limited found api
  · obtain ⟨free, unlimited, sent⟩ := respond_of_answered services same environment machine
    have never : ∀ limit : Duration, ¬ (limit.nanos : ℕ∞) < waiting environment request machine :=
      fun limit passed => absurd (free ▸ passed) not_lt_zero
    exact ⟨fun _ _ => unlimited, fun own _ _ passed => absurd passed (never own),
      fun _ passed => absurd passed (never app.limit), [], .inl rfl, sent⟩
  · have method : request.method ≠ "OPTIONS" := by
      intro options
      obtain ⟨response, answered⟩ := @Handler.dispatch_options none request options
      rw [same] at answered
      cases answered
    refine ⟨fun before within => ?_, fun own given first passed => ?_, fun last passed => ?_,
      sent_respond_of_program services same method⟩
    · refine respond_of_waiting_le services same (le_shorter before.le ?_)
      exact fun own given => (within own given).le
    · subst given
      have decided := respond_of_lt_waiting services same (by rwa [shorter_of_le first.le])
      rw [(respond_eq method).2.1, (respond_eq method).2.2, decided, late_of_le first.le]
      exact ⟨request.status_fitted _, request.body_fitted _⟩
    · obtain ⟨same_limit, answer⟩ := shorter_of_lt request last
      have decided := respond_of_lt_waiting services same (by rwa [same_limit])
      rw [(respond_eq method).2.1, (respond_eq method).2.2, decided, answer]
      exact ⟨rfl, rfl⟩

/-- An environment in which every wait takes three tenths of a second. -/
def sluggish : Environment := { Environment.sample with delay := fun _ => 300000000 }

/-- An order has seven waits.  None of them is longer than the limit of two seconds for the operation, or
that of one second for the request, but all of them together are longer than either, and no limit of three
seconds. -/
theorem respond_limited_sluggish :
    (waiting sluggish orderWish .stocked = (2100000000 : ℕ) ∧
      ∀ count, sluggish.delay count = 300000000) ∧
    ((App.mk ⟨[]⟩ (.inDatabase (some (.ofSeconds 2))) (.ofSeconds 30)).respond
      sluggish orderWish .stocked).2.status = 504 ∧
    ((App.mk ⟨[]⟩ (.inDatabase (some (.ofSeconds 2))) (.ofSeconds 1)).respond
      sluggish orderWish .stocked).2.status = 408 ∧
    (App.mk ⟨[]⟩ (.inDatabase (some (.ofSeconds 3))) (.ofSeconds 30)).respond
        sluggish orderWish .stocked =
      (App.mk ⟨[]⟩ (.inDatabase none) (.ofSeconds 30)).respondUnlimited sluggish orderWish .stocked := by
  have found : Route.ofPath? orderWish.path = some .orders := by decide +kernel
  have decoded : Extract.body OrderCommand.decode orderWish = .ok orderWishCommand := by decide +kernel
  have read : orderWishCommand.toNew =
      .ok ⟨.numbered 10, [some ⟨.numbered 11, 3⟩, none, some ⟨.numbered 11, 1⟩]⟩ := by
    decide +kernel
  have waits : waiting sluggish orderWish .stocked = (2100000000 : ℕ) := by
    have dispatched : Handler.dispatch (.inDatabase none) orderWish = (Task.call (.createOrder
        (some ⟨.numbered 10,
          [some ⟨.numbered 11, 3⟩, none, some ⟨.numbered 11, 1⟩]⟩))).action none 201 := by
      rw [Handler.dispatch_eq found (by decide) (by decide), Task.of, decoded, Task.withPart, read]
      rfl
    obtain ⟨response, finished⟩ : ∃ response, ((requestId sluggish orderWish .stocked).1.run sluggish none
        ((Task.call (.createOrder (some ⟨.numbered 10, [some ⟨.numbered 11, 3⟩, none,
          some ⟨.numbered 11, 1⟩]⟩))).action none 201).program).2 = .finished response := ⟨_, rfl⟩
    have waited := Machine.waiting_of_finished none finished
    unfold waiting
    rw [dispatched]
    exact waited
  have limited := fun query limit =>
    @respond_limited ⟨⟨[]⟩, .inDatabase query, limit⟩ orderWish query _ rfl .orders found (by decide)
      sluggish .stocked
  rw [waits] at limited
  refine ⟨⟨waits, fun _ => rfl⟩, ?_, ?_, ?_⟩
  · exact ((limited (some (.ofSeconds 2)) (.ofSeconds 30)).2.1 _ rfl (by decide) (by decide)).1
  · refine ((limited (some (.ofSeconds 2)) (.ofSeconds 1)).2.2.1 (fun own given => ?_) (by decide)).1
    cases given
    decide
  · refine (limited (some (.ofSeconds 3)) (.ofSeconds 30)).1 (by decide) fun own given => ?_
    cases given
    decide

end App

end Storefront
