/-
**Programs.**

What an operation does to the world is a value: a `Program` is either done, or it makes a `Call` and goes
on with the answer.  A call takes a fresh identifier, reads the clock, waits for its turn to make an order,
takes a connection, or sends a statement.  The connection and the turn are given back when the program
ends.  So a program can be run in any world, alone or beside others, and be cut off at any call.

Main statements: `Program` is a lawful monad, and `Program.calls` lists what a program asks when its
answers are given.
-/

import Storefront.Database.Failure
import Storefront.Database.Statement

namespace Storefront

/-- What a program asks of the world. -/
inductive Call
  | freshId
  | readClock
  /-- To be the only one that makes an order. -/
  | takeTurn
  | connect
  | send (statement : Statement)
deriving DecidableEq

namespace Call

/-- What the world answers. -/
def Answer : Call → Type
  | freshId => Uuid
  | readClock => Timestamp
  | takeTurn => Unit
  | connect => Except DriverError Unit
  | send _ => Except DriverError (List Row)

/-- Does the answer take time? -/
def waits : Call → Bool
  | freshId | readClock => false
  | takeTurn | connect | send _ => true

end Call

/-- A sequence of calls, each of which may depend on the answers so far, and a result. -/
inductive Program (α : Type)
  | done (result : α)
  | ask (call : Call) (next : call.Answer → Program α)

namespace Program

variable {α β γ : Type}

/-- One program after another. -/
def andThen : Program α → (α → Program β) → Program β
  | .done result, next => next result
  | .ask call rest, next => .ask call fun answer => andThen (rest answer) next

instance : Monad Program where
  pure := .done
  bind := andThen

@[simp]
theorem done_bind (result : α) (next : α → Program β) : (Program.done result >>= next) = next result :=
  rfl

@[simp]
theorem ask_bind (call : Call) (rest : call.Answer → Program α) (next : α → Program β) :
    (Program.ask call rest >>= next) = .ask call fun answer => rest answer >>= next :=
  rfl

theorem bind_done (program : Program α) : (program >>= Program.done) = program := by
  induction program with
  | done result => rfl
  | ask call rest ih => simp only [ask_bind, ih]

theorem bind_bind (program : Program α) (next : α → Program β) (last : β → Program γ) :
    (program >>= next >>= last) = program >>= fun result => next result >>= last := by
  induction program with
  | done result => rfl
  | ask call rest ih => simp only [ask_bind, ih]

instance : LawfulMonad Program := LawfulMonad.mk'
  Program
  (fun program => bind_done program)
  (fun _ _ => rfl)
  (fun program next last => bind_bind program next last)

/-! ### Calls as programs -/

/-- The program of one call. -/
def call (call : Call) : Program call.Answer := .ask call .done

/-- An identifier that nothing has yet. -/
def freshId : Program Uuid := call .freshId

/-- The moment that an entity made now keeps. -/
def readClock : Program Timestamp := call .readClock

/-- The turn to make an order. -/
def takeTurn : Program Unit := call .takeTurn

/-- A connection from the pool. -/
def connect : Program (Except DriverError Unit) := call .connect

/-- The rows that answer a statement. -/
def send (statement : Statement) : Program (Except DriverError (List Row)) := call (.send statement)

/-- The calls of a program when its answers are given, and its result. -/
def calls (answer : (call : Call) → call.Answer) : Program α → List Call × α
  | .done result => ([], result)
  | .ask call next =>
    let (later, result) := calls answer (next (answer call))
    (call :: later, result)

end Program

end Storefront
