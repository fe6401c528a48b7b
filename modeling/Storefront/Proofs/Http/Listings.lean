/-
**What is sent for a listing.**

A `Listing` is what the server gives pages of.  The statements for a page have the texts of a fixed
family (`Listing.Text`): apart from constants there is nothing in them but the list of an `ORDER BY`
clause, and the size, the offset and identifiers travel beside them as values.

Main statements:

* `Listing.call_sent`: a sort by allowed properties only has its keys spliced, in order;
* `Listing.call_refused`: any other sort is refused before a statement is sent, and the first
  property that is not allowed is named;
* `Listing.only_names_spliced`: so it is with requests, whatever text they give as the sort.
-/

import Storefront.Proofs.Http.Tasks
import Storefront.Proofs.Paging.Clause
import Storefront.Proofs.Store.Writes

namespace Storefront

/-- What pages are given of: all items, or the orders of an account. -/
inductive Listing
  | items
  | ordersOf (account : Uuid)

namespace Listing

/-- The names by which a listing may be sorted. -/
def names : Listing → List String
  | .items => ItemStore.sortable
  | .ordersOf _ => OrderStore.sortable

/-- The call for a page. -/
def call (request : PageRequest) : Listing → StoreCall
  | .items => .itemPage request
  | .ordersOf account => .orderSearch account request

/-- A page cannot be had. -/
def failed (cause : StoreError) : Listing → StoreAnswer
  | .items => .items (.error cause)
  | .ordersOf _ => .orders (.error cause)

/-! ### The family of statements -/

/-- The statements for a page of a listing, as texts and the values beside them. -/
inductive Text (request : PageRequest) (entries : List String) : Listing → String → List Cell → Prop
  | begin (listing : Listing) : Text request entries listing "BEGIN" []
  | snapshot (listing : Listing) :
      Text request entries listing "SET TRANSACTION ISOLATION LEVEL REPEATABLE READ READ ONLY" []
  | commit (listing : Listing) : Text request entries listing "COMMIT" []
  | rollback (listing : Listing) : Text request entries listing "ROLLBACK" []
  | itemCount : Text request entries .items "SELECT COUNT(*)::BIGINT FROM items" []
  | itemWindow :
      Text request entries .items
        ("SELECT id, title, description, price, created_at, updated_at FROM items"
          ++ orderClause entries ++ " LIMIT $1 OFFSET $2") request.windowCells
  | orderCount (account : Uuid) :
      Text request entries (.ordersOf account)
        "SELECT COUNT(*)::BIGINT FROM orders WHERE account_id = $1" [.uuid account]
  | orderWindow (account : Uuid) :
      Text request entries (.ordersOf account)
        ("SELECT id, account_id, created_at, updated_at FROM orders WHERE account_id = $1"
          ++ orderClause entries ++ " LIMIT $2 OFFSET $3") (.uuid account :: request.windowCells)
  | lines (account : Uuid) (ids : List Uuid) :
      Text request entries (.ordersOf account)
        ("SELECT id, order_id, item_id, quantity, position, created_at, updated_at FROM order_items"
          ++ " WHERE order_id = ANY($1) ORDER BY order_id, position") [.uuids ids]

/-- The statement is one of those for a page. -/
def Admits (request : PageRequest) (entries : List String) (listing : Listing)
    (statement : Statement) : Prop := Text request entries listing statement.text statement.values

section Calls

variable {listing : Listing} {request : PageRequest} {environment : Environment}
  {own outer : Option Duration}

/-- A window is admitted if its text is, whose order is the clause of the sort. -/
theorem window_admitted {table : Table} {filter : Filter} {window : Window} {values : List Cell}
    {front back : String}
    (before : "SELECT " ++ listText table.columns ++ " FROM " ++ table.name ++ filter.text = front)
    (after : windowText (some window) = back)
    (text : Text request request.sort.texts listing
      (front ++ orderClause request.sort.texts ++ back) values) :
    listing.Admits request request.sort.texts
      ⟨.select table filter request.sort.terms (some window), values⟩ := by
  subst before after
  rw [← SortOrder.orderText_terms] at text
  exact text

/-- The program of a page with a sort that passes sends nothing else than the statements of the page. -/
theorem call_program_sends (passes : request.sort.check listing.names = .ok request.sort) :
    (listing.call request).program.Sends (listing.Admits request request.sort.texts) := by
  refine (listing.call request).program_asks.mono fun statement asks => ?_
  cases listing with
  | items =>
    cases asks with
    | itemBegin => exact .begin _
    | itemSnapshot => exact .snapshot _
    | itemCount => exact .itemCount
    | itemCommit => exact .commit _
    | itemWindow checked =>
      obtain rfl := Except.ok.inj (passes.symm.trans checked)
      exact window_admitted (by decide +kernel) (by decide +kernel) .itemWindow
  | ordersOf account =>
    cases asks with
    | searchBegin => exact .begin _
    | searchSnapshot => exact .snapshot _
    | searchCount => exact .orderCount _
    | searchLines _ _ ids => exact .lines _ ids
    | searchCommit => exact .commit _
    | searchWindow _ checked =>
      obtain rfl := Except.ok.inj (passes.symm.trans checked)
      exact window_admitted (by decide +kernel) (by decide +kernel) (.orderWindow account)

/-- **Keys of allowed properties are spliced in order**, and nothing else is. -/
theorem call_sent [Collation] (allowed : ∀ key ∈ request.sort.keys, key.property ∈ listing.names)
    (machine : Machine) :
    machine.SentSince (listing.Admits request request.sort.texts)
      (machine.perform environment outer ((listing.call request).action own)).1 := by
  refine Machine.perform_sends ?_ (.rollback _) machine
  rw [StoreCall.program_action]
  exact call_program_sends (SortOrder.check_of_allowed allowed)

/-- A sort by another property is refused at once. -/
theorem call_refused {cause : SortError} (fails : request.sort.check listing.names = .error cause) :
    (listing.call request).action own = .answered (listing.failed (.rejected (.sort cause))) := by
  cases listing with
  | items =>
    change StoreAnswer.items <$> (ItemStore.inDatabase own).page request = _
    unfold ItemStore.inDatabase
    dsimp only
    rw [show request.sort.check ItemStore.sortable = .error cause from fails]
    rfl
  | ordersOf account =>
    change StoreAnswer.orders <$> (OrderStore.inDatabase own).search account request = _
    unfold OrderStore.inDatabase
    dsimp only
    rw [show request.sort.check OrderStore.sortable = .error cause from fails]
    rfl

end Calls

end Listing

/-! ### Requests -/

/-- The page that a query asks for, or the refusal of its sort. -/
theorem Handler.page_of_query {request : Request} {query : PageQuery}
    (read : Extract.pageQuery request = .ok query) :
    page request = query.request.mapError fun cause => (ErrorAnswer.refused (.sort cause)).response := by
  rw [page, read]

namespace Listing

/-- A resource gives pages of a listing that is sorted by some names; the identifier of the account
may be refused. -/
inductive At : Route → List String → Except Rejection Listing → Prop
  | items : At .items ItemStore.sortable (.ok .items)
  | orders {raw : List Char} {text : String} (read : Extract.id raw = .ok text) :
      At (.accountOrders raw) OrderStore.sortable
        ((Rejection.readId "account id" text).map .ordersOf)

namespace At

variable {route : Route} {names : List String} {found : Except Rejection Listing} {request : Request}

theorem allows_get (at' : At route names found) : route.allows "GET" = true := by
  cases at' <;> rfl

theorem status (at' : At route names found) : route.status = 200 := by
  cases at' <;> rfl

theorem names_eq {listing : Listing} (at' : At route names (.ok listing)) : listing.names = names := by
  generalize same : Except.ok listing = found at at'
  cases at' with
  | items => cases same; rfl
  | @orders raw text read =>
    cases id : Rejection.readId "account id" text with
    | error cause => rw [id] at same; cases same
    | ok account => rw [id] at same; cases same; rfl

/-- Names can be read as properties. -/
theorem names_proper (at' : At route names found) :
    ∀ name ∈ names, SortOrder.isIdentifier name.toList = true := by
  cases at' <;> decide +kernel

theorem task_eq (at' : At route names found) (request : Request) :
    Task.of request route = Task.withPart (Handler.page request) fun page =>
      Task.accepted found fun listing => .call (listing.call page) := by
  cases at' with
  | items => rfl
  | @orders raw text read =>
    rw [Task.of, read]
    change Task.withPart (Handler.page request) _ = _
    cases Rejection.readId "account id" text <;> rfl

/-- A page that can be had is asked for, if the identifier can be had as well. -/
theorem task_of_page (at' : At route names found) {query : PageQuery} {page : PageRequest}
    (read : Extract.pageQuery request = .ok query) (asked : query.request = .ok page) :
    Task.of request route = Task.accepted found fun listing => .call (listing.call page) := by
  rw [at'.task_eq, Handler.page_of_query read, asked]
  rfl

/-- A sort that cannot be read is refused. -/
theorem task_of_error (at' : At route names found) {query : PageQuery} {cause : SortError}
    (read : Extract.pageQuery request = .ok query) (asked : query.request = .error cause) :
    Task.of request route = .answer (ErrorAnswer.refused (.sort cause)).response := by
  rw [at'.task_eq, Handler.page_of_query read, asked]
  rfl

end At

end Listing

/-! ### Responses -/

section Responses

variable [Collation]
variable {settings : ServerSettings} {limit : Option Duration} {app : App} {environment : Environment}
  {request : Request} {machine : Machine} {route : Route} {names : List String}
  {found : Except Rejection Listing}

/-- A request to read that comes to a response at once sends nothing. -/
theorem App.respond_of_answer {response : Response} (services : app.services = .inDatabase limit)
    (method : request.method = "GET") (path : Route.ofPath? request.path = some route)
    (allows : route.allows "GET" = true)
    (task : (Task.of request route).action limit route.status = .answered response) :
    (app.respond environment request machine).1.sent = machine.sent ∧
      (app.respond environment request machine).2.status = response.status ∧
      (app.respond environment request machine).2.body = response.body := by
  have other : request.method ≠ "OPTIONS" := by rw [method]; decide
  obtain ⟨after, status, body⟩ : (app.respond environment request machine).1 = _ ∧
      (app.respond environment request machine).2.status = _ ∧ _ := App.respond_eq other
  rw [after, status, body, App.attend_get services method path allows, task]
  exact ⟨App.sent_requestId, rfl, rfl⟩

/-- A request to read that comes to a call does what the call does. -/
theorem App.respond_of_call {call : StoreCall} (services : app.services = .inDatabase limit)
    (method : request.method = "GET") (path : Route.ofPath? request.path = some route)
    (allows : route.allows "GET" = true) (task : Task.of request route = .call call) :
    (app.respond environment request machine).1 =
        ((requestId environment request machine).1.perform environment (some app.limit)
          (call.action limit)).1 ∧
      ∀ answer, ((requestId environment request machine).1.perform environment (some app.limit)
          (call.action limit)).2 = .finished answer →
        (app.respond environment request machine).2.status = (answer.response route.status).status ∧
          (app.respond environment request machine).2.body = (answer.response route.status).body := by
  have other : request.method ≠ "OPTIONS" := by rw [method]; decide
  obtain ⟨after, status, body⟩ : (app.respond environment request machine).1 = _ ∧
      (app.respond environment request machine).2.status = _ ∧ _ := App.respond_eq other
  have mapped : (requestId environment request machine).1.perform environment (some app.limit)
      (StoreAnswer.response route.status <$> call.action limit) = _ := Machine.perform_map _ _ _ _
  rw [after, status, body, App.attend_get services method path allows, task, Task.action, mapped]
  refine ⟨rfl, fun answer finished => ?_⟩
  rw [finished]
  exact ⟨rfl, rfl⟩

namespace Listing

variable {query : PageQuery}

/-- Pieces that stand for entries have those spliced, for the listing that is asked for. -/
theorem respond_shaped {entries : List String} (services : app.services = .inDatabase limit)
    (method : request.method = "GET") (path : Route.ofPath? request.path = some route)
    (resource : At route names found) (read : Extract.pageQuery request = .ok query)
    (stand : List.Forall₂ (SortPiece names) query.sortPieces entries) :
    machine.SentSince (fun statement => ∃ listing page, found = .ok listing ∧
        query.request = .ok page ∧ listing.Admits page entries statement)
      (app.respond environment request machine).1 := by
  obtain ⟨keys, reads, allowed, rfl⟩ :=
    (SortOrder.forall₂_sortPiece_iff resource.names_proper).mp stand
  have asked := query.request_eq
  rw [reads] at asked
  have task := resource.task_of_page read asked
  cases found with
  | error cause =>
    have answered : (Task.of request route).action limit route.status =
        .answered (ErrorAnswer.refused cause).response := by rw [task]; rfl
    exact .of_same (App.respond_of_answer services method path resource.allows_get answered).1
  | ok listing =>
    have fresh : (App.requestId environment request machine).1.sent = machine.sent :=
      App.sent_requestId
    rw [(App.respond_of_call services method path resource.allows_get task).1]
    refine .trans (.of_same fresh) ((call_sent ?_ _).mono fun statement admits =>
      ⟨listing, _, rfl, asked, admits⟩)
    rw [resource.names_eq]
    exact allowed

/-- Pieces that stand for no entries have the request refused before anything is sent. If the sort and
the identifier could be read, the first property that is not allowed is named. -/
theorem respond_unshaped (services : app.services = .inDatabase limit)
    (method : request.method = "GET") (path : Route.ofPath? request.path = some route)
    (resource : At route names found) (read : Extract.pageQuery request = .ok query)
    (unshaped : ∀ entries, ¬ List.Forall₂ (SortPiece names) query.sortPieces entries) :
    (app.respond environment request machine).1.sent = machine.sent ∧
      (app.respond environment request machine).2.status = 400 ∧
      ∃ cause : Rejection, (app.respond environment request machine).2.body = (Json.Value.object [
          ("error", .text cause.message), ("code", .text "VALIDATION_ERROR")]).render ∧
        ∀ sort listing, query.sortOrder = .ok sort → found = .ok listing →
          ∃ key, (sort.keys.find? fun key => !names.contains key.property) = some key ∧
            cause = .sort (.notAllowed key.property names) := by
  have refused {cause : Rejection} (answered : (Task.of request route).action limit route.status =
      .answered (ErrorAnswer.refused cause).response) :
      (app.respond environment request machine).1.sent = machine.sent ∧
        (app.respond environment request machine).2.status = _ ∧ _ :=
    App.respond_of_answer services method path resource.allows_get answered
  have asked := query.request_eq
  rw [query.sortOrder_eq]
  cases reads : SortOrder.readEntries query.sortPieces with
  | error cause =>
    rw [reads] at asked
    have task := resource.task_of_error read asked
    obtain ⟨sent, status, body⟩ := refused (by rw [task]; rfl)
    exact ⟨sent, status, .sort cause, body, nofun⟩
  | ok keys =>
    rw [reads] at asked
    have task := resource.task_of_page read asked
    cases found with
    | error cause =>
      obtain ⟨sent, status, body⟩ := refused (by rw [task]; rfl)
      exact ⟨sent, status, cause, body, nofun⟩
    | ok listing =>
      cases first : keys.find? fun key => !names.contains key.property with
      | none =>
        have allowed : ∀ key ∈ keys, key.property ∈ names := fun key member => by
          simpa using List.find?_eq_none.mp first key member
        exact absurd ((SortOrder.forall₂_sortPiece_iff resource.names_proper).mpr
          ⟨keys, reads, allowed, rfl⟩) (unshaped _)
      | some key =>
        have named : SortOrder.check ⟨keys⟩ listing.names = .error (.notAllowed key.property names) := by
          rw [resource.names_eq]
          exact SortOrder.check_of_first first
        have fails : (listing.call (.clamped (query.size.getD PageRequest.defaultSize)
            (query.offset.getD 0) ⟨keys⟩)).action limit = _ := call_refused named
        have response : (listing.failed (.rejected (.sort (.notAllowed key.property names)))).response
            route.status = (ErrorAnswer.refused (.sort (.notAllowed key.property names))).response := by
          cases listing <;> rfl
        obtain ⟨sent, status, body⟩ := refused (by
          rw [task, Task.accepted, Task.action, fails, Action.map_answered, response])
        refine ⟨sent, status, _, body, ?_⟩
        rintro _ _ ⟨⟩ _
        exact ⟨key, first, rfl⟩

/-- A query that cannot be read is refused before anything is sent. -/
theorem respond_unread {response : Response} (services : app.services = .inDatabase limit)
    (method : request.method = "GET") (path : Route.ofPath? request.path = some route)
    (resource : At route names found) (unread : Extract.pageQuery request = .error response) :
    (app.respond environment request machine).1.sent = machine.sent ∧
      (app.respond environment request machine).2.status = 400 := by
  have task := resource.task_eq request
  rw [Handler.page, unread] at task
  have answered : (Task.of request route).action limit route.status = .answered response := by
    rw [task]
    rfl
  obtain ⟨sent, status, _⟩ : (app.respond environment request machine).1.sent = machine.sent ∧
      (app.respond environment request machine).2.status = _ ∧ _ :=
    App.respond_of_answer services method path resource.allows_get answered
  refine ⟨sent, status.trans ?_⟩
  unfold Extract.pageQuery at unread
  cases form : PageQuery.ofForm request.query with
  | ok query => rw [form] at unread; cases unread
  | error cause => rw [form] at unread; cases unread; rfl

end Listing

end Responses

/-- **Only allowed names and directions are spliced into statements**, by the stores for any sort and
by requests for any text. -/
theorem Listing.only_names_spliced [Collation] :
    (∀ (listing : Listing) (request : PageRequest) (environment : Environment)
        (own outer : Option Duration) (machine : Machine),
      ((∀ key ∈ request.sort.keys, key.property ∈ listing.names) →
        (∀ entry ∈ request.sort.texts, ClauseEntry listing.names entry) ∧
          machine.SentSince (listing.Admits request request.sort.texts)
            (machine.perform environment outer ((listing.call request).action own)).1) ∧
      ∀ key, (request.sort.keys.find? fun key => !listing.names.contains key.property) = some key →
        machine.perform environment outer ((listing.call request).action own) =
          (machine, .finished (listing.failed
            (.rejected (.sort (.notAllowed key.property listing.names)))))) ∧
    ∀ (settings : ServerSettings) (limit : Option Duration) (app : App) (environment : Environment)
        (request : Request) (machine : Machine) (route : Route) (names : List String)
        (found : Except Rejection Listing),
      App.build? settings limit = some app → request.method = "GET" →
      Route.ofPath? request.path = some route → At route names found →
        (∀ query, Extract.pageQuery request = .ok query →
          (∀ entries, List.Forall₂ (SortPiece names) query.sortPieces entries →
            (∀ entry ∈ entries, ClauseEntry names entry) ∧
              machine.SentSince (fun statement => ∃ listing page, found = .ok listing ∧
                  query.request = .ok page ∧ listing.Admits page entries statement)
                (app.respond environment request machine).1) ∧
          ((∀ entries, ¬ List.Forall₂ (SortPiece names) query.sortPieces entries) →
            (app.respond environment request machine).1.sent = machine.sent ∧
              (app.respond environment request machine).2.status = 400 ∧
              ∃ cause : Rejection, (app.respond environment request machine).2.body =
                  (Json.Value.object [("error", .text cause.message),
                    ("code", .text "VALIDATION_ERROR")]).render ∧
                ∀ sort listing, query.sortOrder = .ok sort → found = .ok listing →
                  ∃ key, (sort.keys.find? fun key => !names.contains key.property) = some key ∧
                    cause = .sort (.notAllowed key.property names))) ∧
        ∀ response, Extract.pageQuery request = .error response →
          (app.respond environment request machine).1.sent = machine.sent ∧
            (app.respond environment request machine).2.status = 400 := by
  refine ⟨fun listing request environment own outer machine => ⟨fun allowed => ?_, ?_⟩, ?_⟩
  · exact ⟨SortOrder.clauseEntry_of_allowed allowed, call_sent allowed machine⟩
  · intro key first
    rw [call_refused (SortOrder.check_of_first first)]
    rfl
  · intro settings limit app environment request machine route names found built method path resource
    have services := App.services_of_build? built
    refine ⟨fun query read => ⟨fun entries stand => ⟨?_, ?_⟩, ?_⟩, ?_⟩
    · intro entry member
      obtain ⟨keys, _, allowed, rfl⟩ :=
        (SortOrder.forall₂_sortPiece_iff resource.names_proper).mp stand
      have entries : ∀ entry ∈ SortOrder.texts ⟨keys⟩, _ := SortOrder.clauseEntry_of_allowed allowed
      exact entries entry member
    · exact respond_shaped services method path resource read stand
    · exact respond_unshaped services method path resource read
    · exact fun response unread => respond_unread services method path resource unread

/-- One sort is spliced, another one is refused. -/
theorem Listing.only_names_spliced_sample :
    ∃ app : App, App.build? {} none = some app ∧
      Machine.SentSince (fun statement => ∃ page,
          PageQuery.request ⟨some 5, none, some "title desc,,id"⟩ = .ok page ∧
          Listing.items.Admits page ["title DESC", "id ASC"] statement) {}
        (app.respond .sample { target := "/api/v1/item?size=5&sort=title+desc,,id" } {}).1 ∧
      (app.respond .sample { target := "/api/v1/item?sort=id;--" } {}).1.sent = [] ∧
      (app.respond .sample { target := "/api/v1/item?sort=id;--" } {}).2.status = 400 := by
  obtain ⟨_, requests⟩ := only_names_spliced
  refine ⟨⟨⟨["http://localhost:5173"]⟩, .inDatabase none, .ofSeconds 30⟩, rfl, ?_, ?_⟩
  · have stand : List.Forall₂ (SortPiece ItemStore.sortable)
        (PageQuery.sortPieces ⟨some 5, none, some "title desc,,id"⟩) ["title DESC", "id ASC"] := by
      refine (SortOrder.forall₂_sortPiece_iff At.items.names_proper).mpr
        ⟨[⟨"title", ⟨.descending, none⟩⟩, ⟨"id", {}⟩], ?_, ?_, ?_⟩
      all_goals decide +kernel
    have sent := (((requests {} none _ .sample { target := "/api/v1/item?size=5&sort=title+desc,,id" }
      {} .items _ _ rfl rfl (by decide +kernel) .items).1 _ (by decide +kernel)).1 _ stand).2
    refine sent.mono ?_
    rintro statement ⟨_, page, ⟨⟩, asked, admits⟩
    exact ⟨page, asked, admits⟩
  · have refused := (requests {} none _ .sample { target := "/api/v1/item?sort=id;--" } {}
      .items _ _ rfl rfl (by decide +kernel) .items).1 ⟨none, none, some "id;--"⟩ (by decide +kernel)
    obtain ⟨sent, status, _⟩ := refused.2 fun entries stand => by
      obtain ⟨keys, read, _⟩ := (SortOrder.forall₂_sortPiece_iff At.items.names_proper).mp stand
      have unread : SortOrder.readEntries (PageQuery.sortPieces ⟨none, none, some "id;--"⟩) =
          .error (.invalidProperty "id;--") := by decide +kernel
      rw [unread] at read
      cases read
    exact ⟨sent, status⟩

end Storefront
