/-
**Actions.**

An `Action` is what answering a request comes to: an answer that is known at once, or a program to be run,
perhaps within a limit.  If the limit passes first the program is dropped and another answer stands in
for its result.

An `Operation` is a program of a store, which may fail.  `Operation.within` makes an action of it.
-/

import Storefront.Store.Error
import Storefront.Store.Program

namespace Storefront

/-- An answer, or a program that finds it. -/
inductive Action (α : Type)
  | answered (value : α)
  /-- A program, and the limit for it with the answer if that passes. -/
  | waiting (limit : Option (Duration × α)) (program : Program α)

namespace Action

/-- Changes the answer, however it is found. -/
def map {α β : Type} (f : α → β) : Action α → Action β
  | .answered value => .answered (f value)
  | .waiting limit program =>
    .waiting (limit.map fun (duration, value) => (duration, f value)) (program >>= fun result =>
      .done (f result))

instance : Functor Action where
  map := map

instance : Pure Action where
  pure := .answered

@[simp]
theorem map_answered {α β : Type} (f : α → β) (value : α) :
    (f <$> (Action.answered value)) = .answered (f value) := rfl

@[simp]
theorem map_waiting {α β : Type} (f : α → β) (limit : Option (Duration × α)) (program : Program α) :
    (f <$> Action.waiting limit program) =
      .waiting (limit.map fun (duration, value) => (duration, f value))
        (program >>= fun result => .done (f result)) := rfl

end Action

/-- A program of a store. -/
abbrev Operation := ExceptT StoreError Program

namespace Operation

variable {α : Type}

/-- The result of something that cannot fail. -/
def lift (program : Program α) : Operation α :=
  ExceptT.mk (program >>= fun result => .done (.ok result))

/-- The result of something that the database may fail at; `fail` sorts its failures. -/
def attempt (fail : DriverError → StoreError) (program : Program (Except DriverError α)) :
    Operation α :=
  ExceptT.mk (program >>= fun result => .done (result.mapError fail))

/-- A result that is known, or the failure it is. -/
def known (fail : DriverError → StoreError) (result : Except DriverError α) : Operation α :=
  ExceptT.mk (.done (result.mapError fail))

/-- An identifier that nothing has yet. -/
def freshId : Operation Uuid := lift Program.freshId

/-- The moment that an entity made now keeps. -/
def readClock : Operation Timestamp := lift Program.readClock

/-- The turn to make an order. -/
def takeTurn : Operation Unit := lift Program.takeTurn

/-- A connection of its own. -/
def connect (fail : DriverError → StoreError) : Operation Unit := attempt fail Program.connect

/-- The rows that answer a statement. -/
def send (fail : DriverError → StoreError) (query : Query) (values : List Cell) :
    Operation (List Row) :=
  attempt fail (Program.send ⟨query, values⟩)

/-- A connection with a transaction all of whose statements see one state. -/
def beginSnapshot (fail : DriverError → StoreError) : Operation Unit := do
  connect fail
  let _ ← send fail .begin []
  let _ ← send fail .snapshot []
  return ()

/-- The end of a transaction. -/
def commit (fail : DriverError → StoreError) : Operation Unit := do
  let _ ← send fail .commit []
  return ()

/-- The first row, read as a record; without rows the error says what is missing. -/
def firstRow (fail : DriverError → StoreError) (missing : StoreError)
    (read : Row → Except DriverError α) (rows : List Row) : Operation α :=
  match rows with
  | [] => throw missing
  | row :: _ => known fail (read row)

/-- The operation as an action, dropped when a limit passes. -/
def within (limit : Option Duration) (operation : Operation α) : Action (Except StoreError α) :=
  .waiting (limit.map fun duration => (duration, .error (.timeout duration))) operation.run

end Operation

end Storefront
