/-
**What is refused at once.**

A request is answered 400 exactly because of what it says: the answer is there before anything is
asked of the database, so it is the same whatever the tables hold and whatever would become of a
statement.  `Request.Refused` says so of a request and a text, for all servers, environments and
machines at once.

Main statements:

* `App.dispatch_of_respond`: an answer 400 has not been waited for;
* `Request.refused_of_faulty`: a request with a fault is refused;
* `App.refused_in_every_situation`: what is answered 400 once is refused always, and so is every
  request with a fault.
-/

import Storefront.Proofs.Account.Emails
import Storefront.Proofs.Http.Listings
import Storefront.Proofs.Order.Wishes
import Storefront.Proofs.Store.Acceptance

namespace Storefront

open Storefront.Text

/-! ### Refusals -/

/-- A server on the database refuses the request with this text, and asks nothing for it. -/
structure App.RefusesAtOnce [Collation] (app : App) (request : Request) (text : String) : Prop where
  /-- There is no program that could wait for a turn or a connection or send a statement. -/
  answered : ∃ response, Handler.dispatch app.services request = .answered response
  status : ∀ environment machine, (app.respond environment request machine).2.status = 400
  body : ∀ environment machine, (app.respond environment request machine).2.body = text
  /-- An identifier may be given to the request; nothing else changes, no statement reaches the
  database and nothing is waited for. -/
  untouched : ∀ environment machine,
    ∃ ids, (app.respond environment request machine).1 = { machine with ids := ids }

/-- However a server is built, and whatever limits it has, it refuses the request with this text. -/
def Request.Refused [Collation] (request : Request) (text : String) : Prop :=
  ∀ (settings : ServerSettings) (limit : Option Duration) (app : App),
    App.build? settings limit = some app → app.RefusesAtOnce request text

/-- An answer 400 that is known at once is the same for all servers. -/
theorem Request.refused_of_dispatch [Collation] {request : Request} {response : Response}
    (method : request.method ≠ "OPTIONS") (status : response.status = 400)
    (known : ∀ limit, Handler.dispatch (.inDatabase limit) request = .answered response) :
    request.Refused response.body := by
  intro settings limit app built
  have services := App.services_of_build? built
  have attended : ∀ environment machine, app.attend environment request machine =
      ((App.requestId environment request machine).1, .finished response) := by
    intro environment machine
    unfold App.attend
    rw [services, known limit]
    rfl
  refine { answered := ⟨response, services ▸ known limit⟩, status := ?_, body := ?_, untouched := ?_ }
  · intro environment machine
    rw [(App.respond_eq method).2.1, attended]
    exact status
  · intro environment machine
    rw [(App.respond_eq method).2.2, attended]
    rfl
  · intro environment machine
    rw [(App.respond_eq method).1, attended]
    rcases App.requestId_cases environment request machine with same | same
    · exact ⟨machine.ids, same⟩
    · exact ⟨machine.ids + 1, same⟩

/-! ### Answers that are waited for -/

/-- An answer to a call that is no refusal is not answered 400. -/
theorem StoreAnswer.Accepts.status_ne {answer : StoreAnswer} (accepts : answer.Accepts) {status : Nat}
    (other : status ≠ 400) : (answer.response status).status ≠ 400 := by
  have settled : ∀ {α : Type} {json : α → Json.Value} {result : Except StoreError α},
      (∀ cause ∈ StoreError.of? result, ¬ cause.Refuses) →
        (Response.ofAnswer status json result).status ≠ 400 := by
    intro α json result accepted
    cases result with
    | ok value => exact other
    | error cause =>
      have accepted : ¬ cause.Refuses := accepted cause rfl
      cases cause with
      | nilEntity => exact absurd trivial accepted
      | rejected cause => exact absurd trivial accepted
      | _ => simp [Response.ofAnswer, ErrorAnswer.ofStore, ErrorAnswer.internal, ErrorAnswer.response,
          Response.ofJson]
  cases answer <;> exact settled accepts

theorem Route.status_ne_refused (route : Route) : route.status ≠ 400 := by
  unfold Route.status
  split <;> decide

/-- Whatever a task has to wait for, it is not answered 400. -/
theorem Task.awaits_status (limit : Option Duration) (route : Route) (task : Task) :
    (task.action limit route.status).Awaits fun response => response.status ≠ 400 := by
  cases task with
  | answer response => trivial
  | health =>
    refine Action.awaits_map ⟨nofun, Program.yields_of_forall (fun answer => ?_) _⟩
    simp [Response.ofJson]
  | call call =>
    exact Action.awaits_map ((call.awaits_acceptance limit).mono fun answer accepts =>
      accepts.status_ne route.status_ne_refused)

theorem Handler.dispatch_awaits (limit : Option Duration) (request : Request) :
    (dispatch (.inDatabase limit) request).Awaits fun response => response.status ≠ 400 := by
  obtain ⟨response, _, same⟩ | ⟨route, _, _, same⟩ := dispatch_cases request
  · rw [same]
    trivial
  · rw [same]
    split
    · exact Action.awaits_map (Task.awaits_status limit route _)
    · exact Task.awaits_status limit route _

/-- A result of an action has been known at once, or it is like those that are waited for. -/
theorem Machine.perform_awaits [Collation] {α : Type} {environment : Environment}
    {outer : Option Duration} {post : α → Prop} {action : Action α} {machine : Machine} {value : α}
    (awaits : action.Awaits post)
    (finished : (machine.perform environment outer action).2 = .finished value) :
    action = .answered value ∨ post value := by
  cases action with
  | answered result =>
    obtain rfl : result = value := Ending.finished.inj finished
    exact Or.inl rfl
  | waiting bound program =>
    right
    by_cases own : ∀ other ∈ (Action.waiting bound program).standIn?, other ≠ value
    · exact perform_yields (fun _ => trivial) awaits.2 finished own
    · push Not at own
      obtain ⟨other, member, rfl⟩ := own
      obtain ⟨⟨duration, instead⟩, same, rfl⟩ := Option.map_eq_some_iff.mp member
      exact awaits.1 duration instead same

/-- **An answer 400 has not been waited for.** -/
theorem App.dispatch_of_respond [Collation] {app : App} {limit : Option Duration}
    {environment : Environment} {request : Request} {machine : Machine}
    (services : app.services = .inDatabase limit)
    (refused : (app.respond environment request machine).2.status = 400) :
    request.method ≠ "OPTIONS" ∧ ∃ response : Response, response.status = 400 ∧
      response.body = (app.respond environment request machine).2.body ∧
      Handler.dispatch (.inDatabase limit) request = .answered response := by
  have method : request.method ≠ "OPTIONS" := by
    intro options
    unfold respond at refused
    rw [if_pos options] at refused
    cases refused
  refine ⟨method, ?_⟩
  obtain ⟨_, status, body⟩ : (app.respond environment request machine).1 = _ ∧ _ ∧ _ :=
    respond_eq method
  rw [status] at refused
  rw [body]
  cases ending : (app.attend environment request machine).2 with
  | abandoned => rw [ending] at refused; cases refused
  | crashed => rw [ending] at refused; cases refused
  | finished response =>
    rw [ending] at refused
    unfold attend at ending
    rw [services] at ending
    obtain known | other := Machine.perform_awaits (Handler.dispatch_awaits limit request) ending
    · exact ⟨response, refused, rfl, known⟩
    · exact absurd refused other

/-! ### Refused tasks -/

/-- The task is answered 400 at once, with the same response whatever the limit for the operation. -/
def Task.Refused (status : Nat) (task : Task) : Prop :=
  ∃ response : Response, response.status = 400 ∧
    ∀ limit, task.action limit status = .answered response

/-- A call that is answered at once is answered so whatever its limit. -/
theorem StoreCall.answered_of_answered {call : StoreCall} {limit : Option Duration} {answer : StoreAnswer}
    (known : call.action limit = .answered answer) (other : Option Duration) :
    call.action other = .answered answer := by
  cases call with
  | createAccount input =>
    cases input with
    | none => exact known
    | some input => cases known
  | createItem input =>
    cases input with
    | none => exact known
    | some input => cases known
  | createOrder input =>
    cases input with
    | none => exact known
    | some input => cases known
  | itemPage request =>
    unfold action ItemStore.inDatabase at known ⊢
    dsimp only at known ⊢
    cases check : request.sort.check ItemStore.sortable with
    | error cause => rw [check] at known; exact known
    | ok sort => rw [check] at known; cases known
  | orderSearch accountId request =>
    unfold action OrderStore.inDatabase at known ⊢
    dsimp only at known ⊢
    cases check : request.sort.check OrderStore.sortable with
    | error cause => rw [check] at known; exact known
    | ok sort => rw [check] at known; cases known
  | accountById id => cases known
  | accountByEmail email => cases known
  | itemById id => cases known
  | orderById id => cases known

namespace Task

variable {status : Nat} {α : Type}

theorem refused_of_answered {task : Task} {limit : Option Duration} {response : Response}
    (known : task.action limit status = .answered response) (refused : response.status = 400) :
    task.Refused status := by
  refine ⟨response, refused, fun other => ?_⟩
  cases task with
  | answer found => exact known
  | health => cases known
  | call call =>
    rw [action] at known ⊢
    cases asked : call.action limit with
    | answered answer =>
      rw [asked] at known
      rw [StoreCall.answered_of_answered asked other]
      exact known
    | waiting bound program => rw [asked] at known; cases known

theorem refused_withPart {part : Except Response α} {next : α → Task}
    (unread : ∀ response, part = .error response → response.status = 400)
    (rest : ∀ value, part = .ok value → (next value).Refused status) :
    (withPart part next).Refused status := by
  cases part with
  | ok value => exact rest value rfl
  | error response => exact ⟨response, unread response rfl, fun _ => rfl⟩

theorem refused_accepted {result : Except Rejection α} {next : α → Task}
    (rest : ∀ value, result = .ok value → (next value).Refused status) :
    (accepted result next).Refused status := by
  cases result with
  | ok value => exact rest value rfl
  | error cause => exact ⟨_, rfl, fun _ => rfl⟩

end Task

namespace Handler

variable {request : Request} {route : Route}

/-- What a resource answers to a method that it has. -/
theorem dispatch_of_route {limit : Option Duration} (found : Route.ofPath? request.path = some route)
    (allowed : route.allows request.method = true) :
    dispatch (.inDatabase limit) request =
      if request.method = "HEAD" then
        Response.withoutBody <$> (Task.of request route).action limit route.status
      else (Task.of request route).action limit route.status := by
  by_cases head : request.method = "HEAD"
  · unfold dispatch
    rw [if_pos head, found]
    dsimp only
    rw [allowed, head, handle_eq]
    rfl
  · rw [if_neg head, dispatch_eq found allowed head]

/-- A refused task is answered at once. -/
theorem dispatch_of_refused (found : Route.ofPath? request.path = some route)
    (allowed : route.allows request.method = true)
    (refused : (Task.of request route).Refused route.status) :
    ∃ response : Response, response.status = 400 ∧
      ∀ limit, dispatch (.inDatabase limit) request = .answered response := by
  obtain ⟨response, status, known⟩ := refused
  by_cases head : request.method = "HEAD"
  · refine ⟨response.withoutBody, status, fun limit => ?_⟩
    rw [dispatch_of_route found allowed, if_pos head, known limit, Action.map_answered]
  · refine ⟨response, status, fun limit => ?_⟩
    rw [dispatch_of_route found allowed, if_neg head, known limit]

/-- What is answered 400 at once with one limit for operations is answered so with every limit. -/
theorem dispatch_of_answered {limit : Option Duration} {response : Response}
    (known : dispatch (.inDatabase limit) request = .answered response)
    (refused : response.status = 400) (other : Option Duration) :
    dispatch (.inDatabase other) request = .answered response := by
  obtain ⟨missing, status, same⟩ | ⟨route, found, allowed, same⟩ := @dispatch_cases limit request
  · rw [same] at known
    cases known
    rw [refused] at status
    exact absurd status (by decide)
  · have task : (Task.of request route).Refused route.status := by
      rw [same] at known
      split at known
      · cases asked : (Task.of request route).action limit route.status with
        | answered whole =>
          rw [asked] at known
          cases known
          exact Task.refused_of_answered asked refused
        | waiting bound program => rw [asked] at known; cases known
      · exact Task.refused_of_answered known refused
    obtain ⟨answer, _, always⟩ := dispatch_of_refused found allowed task
    rw [always other, ← known, always limit]

end Handler

/-! ### Faults -/

/-- The email address is blank, or a text of the account is too short or too long. -/
def AccountCommand.Faulty (command : AccountCommand) : Prop :=
  isBlank command.email = true ∨ command.email.length < 3 ∨ 320 < command.email.length ∨
    (∃ name ∈ command.fullName, 200 < name.length) ∨ ∃ place ∈ command.location, 200 < place.length

/-- The columns by which a page at the resource may be sorted, if it has pages. -/
def Route.sortable? : Route → Option (List String)
  | .items => some ItemStore.sortable
  | .accountOrders _ => some OrderStore.sortable
  | _ => none

/-- A text spells no sort, or one by something else than these columns. -/
def SortOrder.Unfit (names : List String) (raw : String) : Prop :=
  ∀ sort, read raw = .ok sort → ∃ key ∈ sort.keys, key.property ∉ names

/-- What can be wrong with a request to a resource with a method that it has. -/
inductive Request.FaultyAt (request : Request) : Route → Prop
  | account {command : AccountCommand} (read : Extract.body AccountCommand.decode request = .ok command)
      (faulty : command.Faulty) : FaultyAt request .accounts
  | order {command : OrderCommand} (read : Extract.body OrderCommand.decode request = .ok command)
      (faulty : command.Faulty) : FaultyAt request .orders
  | identifier {route : Route} {raw : List Char} (named : route.id? = some raw)
      (malformed : ∀ text, Extract.id raw = .ok text → Uuid.Malformed text) : FaultyAt request route
  | sort {route : Route} {names : List String} {query : PageQuery} {raw : String}
      (listing : route.sortable? = some names) (read : Extract.pageQuery request = .ok query)
      (sorted : query.sort = some raw) (unfit : SortOrder.Unfit names raw) : FaultyAt request route

/-- The request has a fault. -/
def Request.Faulty (request : Request) : Prop :=
  ∃ route, Route.ofPath? request.path = some route ∧ route.allows request.method = true ∧
    request.FaultyAt route

/-- A wish for an account with a fault does not pass. -/
theorem AccountCommand.check_ne_ok {command : AccountCommand} (faulty : command.Faulty) (done : Unit) :
    command.check ≠ .ok done := by
  intro passed
  unfold check at passed
  cases text : Rejection.requireText "email" command.email with
  | error cause => rw [text] at passed; cases passed
  | ok present =>
    have filled := Rejection.filled_of_requireText text
    rw [text] at passed
    cases faults : command.lengthFaults with
    | cons fault rest =>
      simp only [faults] at passed
      cases passed
    | nil =>
      obtain blank | short | long | ⟨name, given, long⟩ | ⟨place, given, long⟩ := faulty
      · rw [filled] at blank
        cases blank
      · simp [lengthFaults, short] at faults
      · simp [lengthFaults, long] at faults
      · simp [lengthFaults, Option.mem_def.mp given, long] at faults
      · simp [lengthFaults, Option.mem_def.mp given, long] at faults

theorem Extract.status_id {raw : List Char} {response : Response} (unread : id raw = .error response) :
    response.status = 400 := by
  unfold id at unread
  split at unread
  · cases unread
  · cases unread
    rfl

theorem Handler.status_page {request : Request} {response : Response}
    (unread : page request = .error response) : response.status = 400 := by
  unfold page at unread
  cases query : Extract.pageQuery request with
  | error found =>
    rw [query] at unread
    cases unread
    unfold Extract.pageQuery at query
    cases form : PageQuery.ofForm request.query with
    | ok found => rw [form] at query; cases query
    | error cause => rw [form] at query; cases query; rfl
  | ok found =>
    rw [query] at unread
    cases asked : found.request with
    | ok page => simp only [asked] at unread; cases unread
    | error cause => simp only [asked] at unread; cases unread; rfl

/-- The page that is asked for with an unfit sort cannot be sorted so. -/
theorem Handler.check_of_unfit {request : Request} {query : PageQuery} {names : List String}
    {raw : String} {asked : PageRequest} (read : Extract.pageQuery request = .ok query)
    (sorted : query.sort = some raw) (unfit : SortOrder.Unfit names raw)
    (paged : page request = .ok asked) : ∃ cause, asked.sort.check names = .error cause := by
  have found : SortOrder.read raw = .ok asked.sort := by
    rw [page_of_query read] at paged
    unfold PageQuery.request PageQuery.sortOrder at paged
    rw [sorted] at paged
    dsimp only at paged
    cases sort : SortOrder.read raw with
    | error cause => rw [sort] at paged; cases paged
    | ok sort' => rw [sort] at paged; cases paged; rfl
  obtain ⟨key, member, foreign⟩ := unfit _ found
  cases checked : asked.sort.check names with
  | error cause => exact ⟨cause, rfl⟩
  | ok sort => exact absurd ((SortOrder.mem_of_check checked).2 key member) foreign

/-- A page that cannot be sorted as it is asked for is refused. -/
theorem Listing.refused_call {listing : Listing} {request : PageRequest} {cause : SortError}
    (fails : request.sort.check listing.names = .error cause) (status : Nat) :
    (Task.call (listing.call request)).Refused status := by
  refine ⟨(ErrorAnswer.refused (.sort cause)).response, rfl, fun limit => ?_⟩
  rw [Task.action, call_refused fails]
  cases listing <;> rfl

/-- A malformed identifier in the path refuses the task of the request. -/
theorem Task.refused_of_malformed {request : Request} {route : Route} {raw : List Char}
    (named : route.id? = some raw) (malformed : ∀ text, Extract.id raw = .ok text → Uuid.Malformed text) :
    (Task.of request route).Refused route.status := by
  have refused : ∀ {status : Nat} {field text : String} {next : Uuid → Task},
      Extract.id raw = .ok text → (accepted (Rejection.readId field text) next).Refused status :=
    fun decoded => refused_accepted fun id read =>
      absurd read (Rejection.readId_malformed (malformed _ decoded))
  cases route with
  | account raw =>
    cases named
    exact refused_withPart (fun _ => Extract.status_id) fun text decoded => refused decoded
  | accountOrders raw =>
    cases named
    exact refused_withPart (fun _ => Extract.status_id) fun text decoded =>
      refused_withPart (fun _ => Handler.status_page) fun page _ => refused decoded
  | item raw =>
    cases named
    exact refused_withPart (fun _ => Extract.status_id) fun text decoded => refused decoded
  | order raw =>
    cases named
    exact refused_withPart (fun _ => Extract.status_id) fun text decoded => refused decoded
  | _ => cases named

/-- An unfit sort refuses the task of the request. -/
theorem Task.refused_of_unfit {request : Request} {route : Route} {names : List String}
    {query : PageQuery} {raw : String} (listing : route.sortable? = some names)
    (read : Extract.pageQuery request = .ok query) (sorted : query.sort = some raw)
    (unfit : SortOrder.Unfit names raw) : (Task.of request route).Refused route.status := by
  cases route with
  | items =>
    cases listing
    refine refused_withPart (fun _ => Handler.status_page) fun page paged => ?_
    obtain ⟨cause, fails⟩ := Handler.check_of_unfit read sorted unfit paged
    exact @Listing.refused_call .items page cause fails _
  | accountOrders raw =>
    cases listing
    refine refused_withPart (fun _ => Extract.status_id) fun text _ => ?_
    refine refused_withPart (fun _ => Handler.status_page) fun page paged => ?_
    refine refused_accepted fun id _ => ?_
    obtain ⟨cause, fails⟩ := Handler.check_of_unfit read sorted unfit paged
    exact @Listing.refused_call (.ordersOf id) page cause fails _
  | _ => cases listing

/-- A fault refuses the task of the request. -/
theorem Task.refused_of_faultyAt {request : Request} {route : Route} (faulty : request.FaultyAt route) :
    (Task.of request route).Refused route.status := by
  cases faulty with
  | account read faulty =>
    refine refused_withPart (fun _ unread => ?_) fun command found => ?_
    · rw [read] at unread; cases unread
    · cases read.symm.trans found
      exact refused_accepted fun done passed => absurd passed (AccountCommand.check_ne_ok faulty done)
  | order read faulty =>
    refine refused_withPart (fun _ unread => ?_) fun command found => ?_
    · rw [read] at unread; cases unread
    · cases read.symm.trans found
      exact refused_accepted fun order means => absurd means (OrderCommand.toNew_ne_ok faulty order)
  | identifier named malformed => exact refused_of_malformed named malformed
  | sort listing read sorted unfit => exact refused_of_unfit listing read sorted unfit

/-- **A request with a fault is refused.** -/
theorem Request.refused_of_faulty [Collation] {request : Request} (faulty : request.Faulty) :
    ∃ text, request.Refused text := by
  obtain ⟨route, found, allowed, faulty⟩ := faulty
  have method : request.method ≠ "OPTIONS" := Handler.ne_options_of_allows allowed
  obtain ⟨response, status, known⟩ :=
    Handler.dispatch_of_refused found allowed (Task.refused_of_faultyAt faulty)
  exact ⟨response.body, refused_of_dispatch method status known⟩

/-! ### In every situation -/

/-- **What is answered 400 once is refused always**, and so is every request with a fault. -/
theorem App.refused_in_every_situation [Collation] (request : Request) :
    (∀ (settings : ServerSettings) (limit : Option Duration) (app : App) (environment : Environment)
        (machine : Machine), build? settings limit = some app →
        (app.respond environment request machine).2.status = 400 →
        request.Refused (app.respond environment request machine).2.body) ∧
      (request.Faulty → ∃ text, request.Refused text) := by
  refine ⟨fun settings limit app environment machine built refused => ?_, Request.refused_of_faulty⟩
  obtain ⟨method, response, status, body, known⟩ :=
    dispatch_of_respond (services_of_build? built) refused
  rw [← body]
  exact Request.refused_of_dispatch method status (Handler.dispatch_of_answered known status)

/-- A wish for an order with a line of nothing. -/
def App.emptyLine : Request where
  method := "POST"
  target := "/api/v1/order"
  headers := [("content-type", "application/json")]
  body := ("\x7b\"account_id\":\"00000000-0000-0000-0000-000000000001\",\"items\":[\x7b\"item_id\":\"\","
    ++ "\"quantity\":0\x7d]\x7d").toUTF8.toList

/-- A wish for items by weight is refused while the database cannot be reached; a line of nothing is a
fault. -/
theorem App.refused_in_every_situation_sample :
    ∃ app : App, build? {} none = some app ∧
      (app.respond .sample ⟨"GET", "/api/v1/item?sort=weight", [], []⟩
        { pool := .unreachable }).2.status = 400 ∧
      Request.Refused ⟨"GET", "/api/v1/item?sort=weight", [], []⟩
        (app.respond .sample ⟨"GET", "/api/v1/item?sort=weight", [], []⟩
          { pool := .unreachable }).2.body ∧
      emptyLine.Faulty ∧ ∃ text, emptyLine.Refused text := by
  have built : build? {} none =
      some ⟨⟨["http://localhost:5173"]⟩, .inDatabase none, .ofSeconds 30⟩ := rfl
  have faulty : emptyLine.Faulty := by
    have read : Extract.body OrderCommand.decode emptyLine =
        .ok ⟨"00000000-0000-0000-0000-000000000001", [some ⟨"", 0⟩]⟩ := by decide +kernel
    exact ⟨.orders, by decide +kernel, by decide +kernel,
      .order read (.inl ⟨_, List.mem_singleton_self _, .inl (by decide)⟩)⟩
  refine ⟨_, built, by decide +kernel, (refused_in_every_situation _).1 _ _ _ _ _ built (by decide +kernel),
    faulty, (refused_in_every_situation emptyLine).2 faulty⟩

end Storefront
