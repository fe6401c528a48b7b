/-
**The machine.**

A `Machine` is what lasts from one operation to the next: the tables, whether the database can be reached,
how many identifiers and readings of the clock have been used, and every statement that has reached the
database, in order.  A `Session` is a machine while one program runs on it: with its connection, whether it
has the turn to make an order, and the time that has passed.

* `Session.send` is what becomes of one statement.  Its answer may come too late; what the server did
  with it is done all the same.
* `Session.close` ends the program: a transaction that the program believes open is rolled back, and
  connection and turn are given back.
-/

import Storefront.Database.Server
import Storefront.Execution.Environment
import Storefront.Time.Duration

namespace Storefront

variable [Collation]

/-- Whether connections can be had. -/
inductive PoolState
  | open
  | closed
  /-- The database cannot be reached. -/
  | unreachable
deriving DecidableEq

/-- What lasts from one operation to the next. -/
structure Machine where
  tables : Tables := .empty
  pool : PoolState := .open
  /-- How many identifiers have been given out. -/
  ids : Nat := 0
  /-- How often the clock has been read. -/
  readings : Nat := 0
  /-- How many waits there have been. -/
  waits : Nat := 0
  /-- Is somebody making an order? -/
  turnTaken : Bool := false
  /-- The statements that have reached the database, in order. -/
  sent : List Statement := []

/-- A connection to the database, with the transaction on it as both sides know it. -/
structure Connection where
  /-- The transaction as the server knows it. -/
  transaction : Option Transaction := none
  /-- Does the program have to end a transaction? -/
  guarded : Bool := false

/-- A machine on which a program runs. -/
structure Session where
  machine : Machine
  connection : Option Connection := none
  /-- The nanoseconds that have passed since the program began. -/
  elapsed : Nat := 0

/-- What a program gets for a call. -/
inductive Reply (α : Type)
  | answer (value : α)
  /-- No answer, or none in time. -/
  | late
  | crashed

/-- The failure of a connection that breaks. -/
def brokenConnection : DriverError := .lostConnection "connection closed"

namespace Session

/-- One wait: its time passes. -/
def pass (environment : Environment) (session : Session) : Session :=
  { session with
    elapsed := session.elapsed + environment.delay session.machine.waits
    machine := { session.machine with waits := session.machine.waits + 1 } }

/-- Has the limit not passed yet? -/
def inTime (limit : Option Duration) (session : Session) : Bool :=
  match limit with
  | none => true
  | some limit => session.elapsed ≤ limit.nanos

/-- An answer, if it comes in time. -/
def reply {α : Type} (limit : Option Duration) (session : Session) (value : α) : Reply α :=
  if session.inTime limit then .answer value else .late

/-- Notes that a statement has reached the database. -/
def log (session : Session) (statement : Statement) : Session :=
  { session with machine := { session.machine with sent := session.machine.sent ++ [statement] } }

/-- The session with another connection, or none. -/
def withConnection (session : Session) (connection : Option Connection) : Session :=
  { session with connection := connection }

/-! ### Connections and statements -/

/-- Takes a connection from the pool. It is as good as new, or there is none to be had. -/
def connect (environment : Environment) (session : Session) : Session × Except DriverError Unit :=
  let session := session.pass environment
  match session.machine.pool with
  | .open => (session.withConnection (some {}), .ok ())
  | .closed => (session, .error .poolClosed)
  | .unreachable => (session, .error brokenConnection)

/-- The session after a statement that the server refuses: a transaction fails with it. -/
def failTransaction (session : Session) (connection : Connection) : Session :=
  let failed := connection.transaction.map fun transaction => { transaction with failed := true }
  session.withConnection (some { connection with transaction := failed })

/-- Does the program have to end a transaction after a statement has succeeded? -/
def guardedAfter (query : Query) (inTime guarded : Bool) : Bool :=
  match query with
  | .begin => true
  | .commit | .rollback => if inTime then false else guarded
  | _ => guarded

/-- A statement that the server carries out. -/
def carryOut (limit : Option Duration) (session : Session) (connection : Connection)
    (statement : Statement) : Session × Except DriverError (List Row) :=
  let effect := execute session.machine.tables connection.transaction statement
  let guarded := match effect.answer with
    | .ok _ => guardedAfter statement.query (session.inTime limit) connection.guarded
    | .error _ => connection.guarded
  ({ session with
      machine := { session.machine with tables := effect.tables }
      connection := some ⟨effect.transaction, guarded⟩ },
    effect.answer.mapError .refused)

/-- Sends a statement and waits for its answer. Values that the server refuses keep the statement from
reaching the database. -/
def send (environment : Environment) (limit : Option Duration) (session : Session)
    (statement : Statement) : Session × Reply (Except DriverError (List Row)) :=
  let fate := environment.fate session.machine.sent statement
  let session := session.pass environment
  match session.connection with
  | none => (session, session.reply limit (.error brokenConnection))
  | some connection =>
    match statement.refused? with
    | some report =>
      let session := session.failTransaction connection
      (session, session.reply limit (.error (.refused report)))
    | none =>
      let session := session.log statement
      match fate with
      | .answered =>
        let (session, answer) := session.carryOut limit connection statement
        (session, session.reply limit answer)
      | .refused report =>
        let session := session.failTransaction connection
        (session, session.reply limit (.error (.refused report)))
      | .disconnected =>
        let session := session.withConnection none
        (session, session.reply limit (.error brokenConnection))
      | .silent => (session.withConnection none, .late)
      | .crashed => (session, .crashed)

/-- The end of a program: what it holds is given back, and a transaction that it has not ended is rolled
back. -/
def close (session : Session) : Machine :=
  let machine := { session.machine with turnTaken := false }
  match session.connection with
  | none => machine
  | some connection =>
    if connection.guarded then { machine with sent := machine.sent ++ [⟨.rollback, []⟩] }
    else machine

end Session

end Storefront
