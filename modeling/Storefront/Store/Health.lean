/-
**Health of the database.**

A round trip to the database that asks for nothing.  There is no limit for it.
-/

import Storefront.Store.Action

namespace Storefront.Health

/-- Sends the smallest statement there is. -/
def ping : Program (Except DriverError Unit) := do
  match ← Program.connect with
  | .error cause => return .error cause
  | .ok () =>
    let answer ← Program.send ⟨.ping, []⟩
    return answer.map fun _ => ()

/-- The round trip as an action. -/
def check : Action (Except DriverError Unit) := .waiting none ping

end Storefront.Health
