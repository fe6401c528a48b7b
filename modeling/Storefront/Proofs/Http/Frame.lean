/-
**What requests leave as it is.**

The store is append-only: whatever requests come, in whatever order or beside each other, and however
the work on them ends, the rows that are there stay where they are.  Only the two resources at which
something is made add rows, and `Request.MayAdd` says which.

Main statements:

* `Handler.dispatch_adds`: a request adds no more than it may;
* `App.run_appends`: so the store is append-only in every run.
-/

import Storefront.Proofs.Http.Tasks
import Storefront.Proofs.Store.Soundness
import Storefront.Proofs.Store.Writes
import Storefront.Proofs.Text.Layout

namespace Storefront

open Storefront.Text

/-! ### Paths -/

/-- A resource is found at its path only. -/
theorem Route.path_eq {path : List Char} {route : Route} (found : ofPath? path = some route) :
    path = route.path := by
  have segments : ∀ parts : List String, ofSegments? parts = some route →
      parts.map String.toList = route.segments := by
    intro parts read
    unfold ofSegments? at read
    split at read
    all_goals first
      | (cases read; rfl)
      | (split at read <;> cases read; rfl)
      | cases read
  have same : ((pieces '/' path).map String.ofList).map String.toList = pieces '/' path := by
    rw [List.map_map]
    exact List.map_id'' (fun piece => String.toList_ofList) _
  rw [Route.path, ← segments _ found, same, intercalate_pieces]

/-! ### What requests may add -/

/-- Does the request post something at this path? -/
def Request.Posts (request : Request) (path : String) : Prop :=
  request.method = "POST" ∧ request.path = path.toList

/-- The rows that a request may add to the tables. -/
structure Request.MayAdd (request : Request) (rows : Tables) : Prop where
  /-- At most one account, where accounts are made. -/
  account : request.Posts "/api/v1/account" →
    rows.accounts.length ≤ 1 ∧ rows.items = [] ∧ rows.orders = [] ∧ rows.orderItems = []
  /-- At most one order with lines of its own, where orders are made. -/
  order : request.Posts "/api/v1/order" →
    rows.accounts = [] ∧ rows.items = [] ∧
      (rows.orders = [] ∧ rows.orderItems = [] ∨
        ∃ order id, rows.orders = [order] ∧ order.get "id" = .uuid id ∧
          ∀ line ∈ rows.orderItems, line.get "order_id" = .uuid id)
  /-- Nothing anywhere else. -/
  elsewhere : ¬ request.Posts "/api/v1/account" → ¬ request.Posts "/api/v1/order" → rows = .empty

theorem Request.mayAdd_empty {request : Request} : request.MayAdd .empty where
  account _ := ⟨Nat.zero_le _, rfl, rfl, rfl⟩
  order _ := ⟨rfl, rfl, Or.inl ⟨rfl, rfl⟩⟩
  elsewhere _ _ := rfl

/-- Only where accounts are made does a request come to making an account, only where orders are made
to making an order, and nowhere to making an item. -/
theorem Task.call_cases {request : Request} {route : Route} {call : StoreCall}
    (asked : of request route = .call call) :
    (∃ input, route = .accounts ∧ call = .createAccount input) ∨
      (∃ input, route = .orders ∧ call = .createOrder input) ∨
      route.makes = false ∧ ∀ table, ¬ call.Writes table := by
  cases route with
  | health => cases asked
  | accounts =>
    obtain ⟨command, _, asked⟩ := withPart_eq_call.mp asked
    obtain ⟨_, _, asked⟩ := accepted_eq_call.mp asked
    cases asked
    exact Or.inl ⟨_, rfl, rfl⟩
  | account raw =>
    obtain ⟨text, _, asked⟩ := withPart_eq_call.mp asked
    obtain ⟨id, _, asked⟩ := accepted_eq_call.mp asked
    cases asked
    exact Or.inr (Or.inr ⟨rfl, fun _ => False.elim⟩)
  | accountOrders raw =>
    obtain ⟨text, _, asked⟩ := withPart_eq_call.mp asked
    obtain ⟨page, _, asked⟩ := withPart_eq_call.mp asked
    obtain ⟨id, _, asked⟩ := accepted_eq_call.mp asked
    cases asked
    exact Or.inr (Or.inr ⟨rfl, fun _ => False.elim⟩)
  | items =>
    obtain ⟨page, _, asked⟩ := withPart_eq_call.mp asked
    cases asked
    exact Or.inr (Or.inr ⟨rfl, fun _ => False.elim⟩)
  | item raw =>
    obtain ⟨text, _, asked⟩ := withPart_eq_call.mp asked
    obtain ⟨id, _, asked⟩ := accepted_eq_call.mp asked
    cases asked
    exact Or.inr (Or.inr ⟨rfl, fun _ => False.elim⟩)
  | orders =>
    obtain ⟨command, _, asked⟩ := withPart_eq_call.mp asked
    obtain ⟨_, _, asked⟩ := accepted_eq_call.mp asked
    cases asked
    exact Or.inr (Or.inl ⟨_, rfl, rfl⟩)
  | order raw =>
    obtain ⟨text, _, asked⟩ := withPart_eq_call.mp asked
    obtain ⟨id, _, asked⟩ := accepted_eq_call.mp asked
    cases asked
    exact Or.inr (Or.inr ⟨rfl, fun _ => False.elim⟩)

/-- What a call of a store may add, a request may add that comes to it. -/
theorem Request.mayAdd_of_call {request : Request} {route : Route} {call : StoreCall} {rows : Tables}
    (found : Route.ofPath? request.path = some route) (allowed : route.allows request.method = true)
    (asked : Task.of request route = .call call) (added : call.MayAdd rows) : request.MayAdd rows := by
  have path := Route.path_eq found
  obtain ⟨input, rfl, rfl⟩ | ⟨input, rfl, rfl⟩ | ⟨_, reads⟩ := Task.call_cases asked
  · have posts : request.Posts "/api/v1/account" := ⟨beq_iff_eq.mp allowed, path⟩
    refine { account := fun _ => added.account, order := fun other => ?_, elsewhere := ?_ }
    · exact absurd (path.symm.trans other.2) (by decide)
    · exact fun other => absurd posts other
  · have posts : request.Posts "/api/v1/order" := ⟨beq_iff_eq.mp allowed, path⟩
    refine { account := fun other => ?_, order := fun _ => ?_, elsewhere := ?_ }
    · exact absurd (path.symm.trans other.2) (by decide)
    · obtain rfl | ⟨order, numbered, rfl⟩ := added.order
      · exact ⟨rfl, rfl, Or.inl ⟨rfl, rfl⟩⟩
      · refine ⟨rfl, rfl, Or.inr ⟨order.header, order.id, rfl, order.header_id, fun row member => ?_⟩⟩
        obtain ⟨line, own, rfl⟩ := List.mem_map.mp member
        rw [OrderLine.kept_orderId, numbered.orderId_eq own]
    · exact fun _ other => absurd posts other
  · rw [added.eq_empty reads]
    exact mayAdd_empty

/-! ### What requests add -/

/-- A program whose only statement looks at nothing adds nothing. -/
theorem Health.ping_adds [Collation] {request : Request} : Health.ping.Adds request.MayAdd := by
  intro tables
  have sends : Health.ping.Sends (Statement.Into fun _ => False) := by
    refine ⟨nofun, fun answer => ?_⟩
    cases answer with
    | error cause => trivial
    | ok done =>
      refine ⟨?_, fun _ => trivial⟩
      rintro _ ⟨⟩
      exact nofun
  have keeps : Health.ping.Keeps .anywhere Program.anyResult { tables := tables } := ping_keeps
  refine (keeps.within sends nofun Tables.within_empty).mono ?_ ?_
  · intro _ view kept
    rw [Tables.eq_empty_of_within (fun _ => id) kept.1]
    exact Request.mayAdd_empty
  · intro _ view kept
    rw [Tables.eq_empty_of_within (fun _ => id) kept.1]
    exact Request.mayAdd_empty

/-- Changing the answer changes nothing of what is added. -/
theorem Action.adds_map [Collation] {α β : Type} {promise : Tables → Prop} {f : α → β}
    {action : Action α} (adds : action.program.Adds promise) : (f <$> action).program.Adds promise :=
  fun tables => Action.keeps_program_map.mpr (adds tables)

/-- A request adds no more than it may. -/
theorem Handler.dispatch_adds [Collation] (limit : Option Duration) (request : Request) :
    (dispatch (.inDatabase limit) request).program.Adds request.MayAdd := by
  obtain ⟨response, _, same⟩ | ⟨route, found, allowed, same⟩ := dispatch_cases request
  · rw [same]
    exact fun _ => Request.mayAdd_empty
  · have task : ((Task.of request route).action limit route.status).program.Adds request.MayAdd := by
      cases asked : Task.of request route with
      | answer response => exact fun _ => Request.mayAdd_empty
      | health =>
        have adds : Health.check.program.Adds request.MayAdd := Health.ping_adds
        exact Action.adds_map adds
      | call call =>
        refine Action.adds_map ?_
        rw [StoreCall.program_action]
        exact call.program_adds.mono fun rows => Request.mayAdd_of_call found allowed asked
    rw [same]
    split
    · exact Action.adds_map task
    · exact task

namespace App

variable {app : App}

/-- A request to a server on the database, in any environment and whether the database can be reached
or not. -/
inductive Serves [Collation] (app : App) (request : Request) (before : Machine) : Machine → Prop
  | responds (environment : Environment) (pool : PoolState) :
      Serves app request before (app.respond environment request { before with pool := pool }).1

/-- Any number of requests, one after another. -/
def Run [Collation] (app : App) : Machine → Machine → Prop :=
  Relation.ReflTransGen fun before after => ∃ request, app.Serves request before after

/-- A request adds no more than it may. -/
theorem Serves.adds [Collation] {limit : Option Duration} {request : Request} {before after : Machine}
    (services : app.services = .inDatabase limit) (serves : app.Serves request before after) :
    ∃ rows, request.MayAdd rows ∧ after.tables = before.tables ++ rows := by
  obtain ⟨environment, pool⟩ := serves
  by_cases options : request.method = "OPTIONS"
  · refine ⟨.empty, Request.mayAdd_empty, ?_⟩
    rw [respond_options options, Tables.append_empty]
  · have adds := Handler.dispatch_adds limit request
    rw [← services] at adds
    obtain ⟨rows, may, added⟩ : ∃ rows, request.MayAdd rows ∧
        (app.attend environment request { before with pool := pool }).1.tables = _ ++ rows :=
      Machine.perform_adds adds Request.mayAdd_empty _
    refine ⟨rows, may, ?_⟩
    rw [(respond_eq options).1, added, tables_requestId]

/-- **The store is append-only, and only two resources write.** -/
theorem run_appends [Collation] {settings : ServerSettings} {limit : Option Duration}
    {first last : Machine} (built : build? settings limit = some app) (run : app.Run first last) :
    (∀ table, first.tables.rows table <+: last.tables.rows table) ∧
      (∀ request after, app.Serves request last after →
        ∃ rows : Tables, request.MayAdd rows ∧
          ∀ table, after.tables.rows table = last.tables.rows table ++ rows.rows table) ∧
      ∀ (ι : Type) [DecidableEq ι] (requests : ι → Request) (size : Nat) (now : System ι Response),
        (System.start (fun who => (Handler.dispatch app.services (requests who)).program)
            last.tables size).Run now →
          (∀ table, last.tables.rows table <+: now.tables.rows table) ∧
            now.tables = last.tables ++ .sum (now.log.map fun entry => entry.added) ∧
            ∀ who, (requests who).MayAdd (now.addedBy who) := by
  have services := services_of_build? built
  refine ⟨?_, ?_, ?_⟩
  · induction run with
    | refl => exact fun table => List.prefix_refl _
    | tail _ step ih =>
      obtain ⟨request, serves⟩ := step
      obtain ⟨rows, _, added⟩ := serves.adds services
      intro table
      rw [added, Tables.rows_append]
      exact (ih table).trans (List.prefix_append _ _)
  · intro request after serves
    obtain ⟨rows, may, added⟩ := serves.adds services
    refine ⟨rows, may, fun table => ?_⟩
    rw [added, Tables.rows_append]
  · intro ι _ requests size now run
    have whole := System.Run.tables_eq run
    refine ⟨fun table => ?_, whole, fun who => ?_⟩
    · rw [whole, Tables.rows_append]
      exact List.prefix_append _ _
    · rw [services] at run
      exact System.Run.adds run (fun who => Handler.dispatch_adds limit (requests who))
        (fun _ => Request.mayAdd_empty) who

/-- A wish for an account. -/
def wish : Request where
  method := "POST"
  target := "/api/v1/account"
  headers := [("content-type", "application/json")]
  body := "\x7b\"email\":\"ada@example.org\"\x7d".toUTF8.toList

/-- An account is posted to a server on empty tables. -/
theorem run_appends_sample :
    ∃ (app : App) (last : Machine), build? {} none = some app ∧ app.Run {} last ∧
      last.tables.accounts.length = 1 ∧
      (∀ table, ({} : Machine).tables.rows table <+: last.tables.rows table) ∧
      ∀ request after, app.Serves request last after →
        ∃ rows : Tables, request.MayAdd rows ∧
          ∀ table, after.tables.rows table = last.tables.rows table ++ rows.rows table := by
  have run : Run ⟨⟨["http://localhost:5173"]⟩, .inDatabase none, .ofSeconds 30⟩ {} _ :=
    .tail .refl ⟨wish, .responds .sample .open⟩
  have built : build? {} none =
      some ⟨⟨["http://localhost:5173"]⟩, .inDatabase none, .ofSeconds 30⟩ := rfl
  obtain ⟨kept, adds, _⟩ := run_appends built run
  exact ⟨_, _, built, run, by decide +kernel, kept, adds⟩

end App

end Storefront
