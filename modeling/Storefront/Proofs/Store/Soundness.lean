/-
**The tables stay sound.**

Accounts, items and orders are looked up and made by calls of the stores and by requests, one after
another.  Each of them may succeed, fail, or be dropped by a limit at any point, and the database
may become reachable or unreachable in between.  Whatever happens, the tables stay sound.

Main statements:

* `App.respond_grown`: taking a request adds nothing but accounts, items and orders that the server
  lets in;
* `sound_of_operated`: the tables stay sound.
-/

import Storefront.Http.App
import Storefront.Proofs.Database.Sound
import Storefront.Proofs.Program.Alone
import Storefront.Proofs.Store.Calls

namespace Storefront

/-- Taking a request adds nothing but what the server lets in. -/
theorem App.respond_grown [Collation] {app : App} (lawful : app.services.Lawful)
    (environment : Environment) (request : Request) (machine : Machine) :
    machine.tables.Grown (app.respond environment request machine).1.tables := by
  unfold respond
  split
  · exact Relation.ReflTransGen.refl
  · have same : (requestId environment request machine).1.tables = machine.tables := by
      unfold requestId
      split <;> rfl
    have grown : (requestId environment request machine).1.tables.Grown
        ((requestId environment request machine).1.perform environment (some app.limit)
          (Handler.dispatch app.services request)).1.tables :=
      Machine.perform_grown (Handler.dispatch_lawful lawful request _)
    rwa [same] at grown

/-- A server that has been built for the database has services that obey the rule for statements. -/
theorem App.lawful_of_build? [Collation] {settings : ServerSettings} {limit : Option Duration}
    {app : App} (built : build? settings limit = some app) : app.services.Lawful := by
  obtain ⟨cors, _, rfl⟩ := Option.map_eq_some_iff.mp built
  exact Services.inDatabase_lawful limit

/-- One operation on a machine: a call of a store, within any limits, or a request to a server.
Between operations the database may become reachable or unreachable. -/
inductive Machine.Operated [Collation] (before : Machine) : Machine → Prop
  | call (environment : Environment) (outer limit : Option Duration) (call : StoreCall) :
      Operated before (before.perform environment outer (call.action limit)).1
  | request {settings : ServerSettings} {limit : Option Duration} {app : App}
      (environment : Environment)
      (built : App.build? settings limit = some app) (request : Request) :
      Operated before (app.respond environment request before).1
  | pool (state : PoolState) : Operated before { before with pool := state }

/-- An operation adds nothing but what the server lets in. -/
theorem Machine.Operated.grown [Collation] {before after : Machine} (operated : before.Operated after) :
    before.tables.Grown after.tables := by
  cases operated with
  | call environment outer limit call =>
    have keeps := call.program_keeps before.tables
    rw [← StoreCall.program_action limit] at keeps
    exact perform_grown keeps
  | request environment built request =>
    exact App.respond_grown (App.lawful_of_build? built) environment request before
  | pool state => exact Relation.ReflTransGen.refl

/-- Operations one after another add nothing else. -/
theorem Machine.grown_of_operated [Collation] {start finish : Machine}
    (operated : Relation.ReflTransGen Operated start finish) : start.tables.Grown finish.tables := by
  induction operated with
  | refl => exact Relation.ReflTransGen.refl
  | tail _ step ih => exact ih.trans step.grown

/-- **The tables stay sound**, whatever is done by calls and requests one after another. -/
theorem Machine.sound_of_operated [Collation] {start finish : Machine} (sound : start.tables.Sound)
    (operated : Relation.ReflTransGen Operated start finish) : finish.tables.Sound := by
  induction operated with
  | refl => exact sound
  | tail _ step ih => exact ih.grown step.grown

/-- An account is made from an address with white space around it, then an item, and then an order of that
item with two lines. -/
theorem Machine.sound_of_operated_sample :
    ∃ finish : Machine, Relation.ReflTransGen Operated {} finish ∧ finish.tables.accounts.length = 1 ∧
      finish.tables.items.length = 1 ∧ finish.tables.orders.length = 1 ∧
      finish.tables.orderItems.length = 2 ∧ finish.tables.Sound := by
  have operated : Relation.ReflTransGen Operated {} _ :=
    .tail (.tail (.tail .refl
      (.call .sample none none
        (.createAccount (some ⟨" ada@example.org ", none, none, none, .female⟩))))
      (.call .sample none none (.createItem (some ⟨"Tea", none, ⟨0⟩⟩))))
      (.call .sample none none
        (.createOrder (some ⟨.numbered 10,
          [some ⟨.numbered 11, 3⟩, none, some ⟨.numbered 11, 1⟩]⟩)))
  exact ⟨_, operated, rfl, rfl, rfl, rfl, sound_of_operated Tables.sound_empty operated⟩

end Storefront
