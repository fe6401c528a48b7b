/-
**The application.**

An `App` is a server ready to take requests.  `App.build?` makes one, unless a wildcard stands among the
origins.  `App.respond` takes a request on a machine:

* a question what is allowed is answered at once;
* any other request gets an identifier, its own or a fresh one, which the response carries whatever its
  outcome;
* a request that takes too long, or whose task breaks down, is answered instead.

Main statements:

* `requestId_respond`: every response to another method than `OPTIONS` carries an identifier;
* `respond_tables`: taking a request only adds rows.
-/

import Storefront.Execution.Run
import Storefront.Http.Cors
import Storefront.Http.Handler
import Storefront.Settings.Server

namespace Storefront

variable [Collation]

/-- A server ready to take requests. -/
structure App where
  cors : Cors
  services : Services
  /-- How long a request may take. -/
  limit : Duration

namespace App

/-- The header that carries the identifier of a request. -/
def requestIdHeader : String := "x-request-id"

/-- The server with these settings on the database, with a limit for each operation. -/
def build? (settings : ServerSettings) (queryLimit : Option Duration) : Option App :=
  (Cors.ofOrigins? settings.origins).map fun cors =>
    ⟨cors, .inDatabase queryLimit, .ofSeconds settings.requestTimeout⟩

/-- The identifier of a request: its own, or a fresh one. -/
def requestId (environment : Environment) (request : Request) (machine : Machine) :
    Machine × String :=
  match request.header? requestIdHeader with
  | some id => (machine, id)
  | none => ({ machine with ids := machine.ids + 1 }, (environment.id machine.ids).text)

/-- The response to a request that has ended in some way. -/
def conclude : Ending Response → Response
  | .finished response => response
  | .abandoned => .ofStatus 408
  | .crashed => .ofText 500 "Service panicked"

/-- The response to a request, and the machine after it. A preflight request reaches nothing behind the
rules for origins; every other one has an identifier, a handler and a limit. -/
def respond (app : App) (environment : Environment) (request : Request) (machine : Machine) :
    Machine × Response :=
  if request.method = "OPTIONS" then (machine, app.cors.preflight request)
  else
    let (machine, id) := requestId environment request machine
    let (machine, ending) :=
      machine.perform environment (some app.limit) (Handler.dispatch app.services request)
    let response := (conclude ending).withHeaders [(requestIdHeader, id)]
    (machine, app.cors.extend request response)

/-! ### Laws -/

/-- Every response to another method than `OPTIONS` carries an identifier. -/
theorem requestId_respond {app : App} {environment : Environment} {request : Request}
    {machine : Machine} (method : request.method ≠ "OPTIONS") :
    (requestIdHeader, (requestId environment request machine).2) ∈
      (app.respond environment request machine).2.headers := by
  unfold respond
  rw [if_neg method]
  simp [Cors.extend, Response.withHeaders]

theorem tables_perform {α : Type} (environment : Environment) (outer : Option Duration)
    (action : Action α) (machine : Machine) :
    (machine.perform environment outer action).1.tables.Extends machine.tables := by
  unfold Machine.perform
  split
  · exact .refl _
  · exact Machine.run_tables _ _ _ _
  · split
    · next limit instead program _ =>
      have added := Machine.run_tables environment (some limit) program machine
      split <;> simp_all
    · exact Machine.run_tables _ _ _ _

/-- Taking a request only adds rows. -/
theorem respond_tables (app : App) (environment : Environment) (request : Request)
    (machine : Machine) :
    (app.respond environment request machine).1.tables.Extends machine.tables := by
  unfold respond
  split
  · exact .refl _
  · have same : (requestId environment request machine).1.tables = machine.tables := by
      unfold requestId
      split <;> rfl
    exact same ▸ tables_perform environment (some app.limit) (Handler.dispatch app.services request)
      (requestId environment request machine).1

end App

end Storefront
