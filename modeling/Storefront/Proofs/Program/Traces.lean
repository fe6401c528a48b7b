/-
**Traces.**

The trace of a run is what has reached the database, in order, each statement with what has become of
it (`Outcome`).  The `ROLLBACK` by which a connection is given back whose transaction has been left open
belongs to the trace; it is carried out before anybody gets the connection.

Main statements:

* `Session.sent_run`: the statements of the trace of a run are what has been sent in it;
* `Machine.sent_perform`: so it is with actions.
-/

import Storefront.Proofs.Program.Steps

namespace Storefront

variable {α : Type} {environment : Environment} {limit outer : Option Duration}

/-- What has become of a statement that has reached the database. -/
inductive Outcome
  /-- It has been carried out, and the program knows. -/
  | succeeded
  /-- It has been carried out, and the program was dropped before the answer came. -/
  | overdue
  /-- The server has answered it with an error. -/
  | failed
  /-- The connection is lost with it. -/
  | lost
  /-- The task that waited for the answer has broken down. -/
  | crashed
deriving DecidableEq

/-- A statement that has reached the database. -/
structure Event where
  statement : Statement
  outcome : Outcome
deriving DecidableEq

/-- What becomes of a statement to which the server has an answer of its own. -/
def Outcome.ofAnswer (inTime : Bool) : Except Report (List Row) → Outcome
  | .ok _ => if inTime then .succeeded else .overdue
  | .error _ => .failed

/-- What becomes of a statement that reaches the database on a connection. -/
def Session.outcome [Collation] (environment : Environment) (limit : Option Duration)
    (session : Session) (connection : Connection) (statement : Statement) : Outcome :=
  match environment.fate session.machine.sent statement with
  | .answered =>
    .ofAnswer ((session.pass environment).inTime limit)
      (execute session.machine.tables connection.transaction statement).answer
  | .refused _ => .failed
  | .disconnected | .silent => .lost
  | .crashed => .crashed

/-- What reaches the database by a call. -/
def Session.event? [Collation] (environment : Environment) (limit : Option Duration)
    (session : Session) :
    Call → Option Event
  | .send statement =>
    match session.connection, statement.refused? with
    | some connection, none =>
      some ⟨statement, session.outcome environment limit connection statement⟩
    | _, _ => none
  | _ => none

/-- What reaches the database in a run. -/
def Session.events [Collation] (environment : Environment) (limit : Option Duration)
    (program : Program α) (session : Session) : List Event :=
  (session.moments environment limit program).filterMap fun moment =>
    moment.before.event? environment limit moment.call

/-- The end of a transaction that has been left open. -/
def Event.rollback : Event := ⟨⟨.rollback, []⟩, .succeeded⟩

/-- What reaches the database when a session is closed. -/
def Session.parting (session : Session) : List Event :=
  match session.connection with
  | none => []
  | some connection => if connection.guarded then [.rollback] else []

/-- The connection that is given back when a session is closed, if it is not lost. -/
def Session.returned [Collation] (session : Session) : List Connection :=
  match session.connection with
  | none => []
  | some connection =>
    if connection.guarded then
      [⟨(execute session.machine.tables connection.transaction ⟨.rollback, []⟩).transaction, false⟩]
    else [connection]

/-! ### Steps -/

/-- A step brings its event to the database and nothing else. -/
theorem Session.sent_step [Collation] (session : Session) (call : Call) :
    (session.step environment limit call).1.machine.sent =
      session.machine.sent ++
        (session.event? environment limit call).toList.map Event.statement := by
  have same : ∀ sent : List Statement, sent = sent ++ [] := fun sent => (List.append_nil sent).symm
  cases call with
  | freshId => exact same _
  | readClock => exact same _
  | takeTurn =>
    rw [step]
    dsimp only
    split <;> exact same _
  | connect =>
    rw [step]
    dsimp only
    unfold connect
    dsimp only
    split <;> exact same _
  | send statement =>
    rw [step, event?]
    unfold send
    dsimp only [pass]
    cases session.connection with
    | none => exact same _
    | some connection =>
      cases refused : statement.refused? with
      | some report => exact same _
      | none =>
        dsimp only
        cases environment.fate session.machine.sent statement <;> rfl

section Runs

variable {call : Call} {next : call.Answer → Program α} {session : Session}

theorem Session.events_ask [Collation] (call : Call) (next : call.Answer → Program α)
    (session : Session) :
    session.events environment limit (.ask call next) =
      (session.event? environment limit call).toList ++
        match (session.step environment limit call).2 with
        | .answer answer =>
          (session.step environment limit call).1.events environment limit (next answer)
        | _ => [] := by
  unfold events
  rw [moments, List.filterMap_cons]
  cases session.event? environment limit call with
  | none => cases (session.step environment limit call).2 <;> rfl
  | some event => cases (session.step environment limit call).2 <;> rfl

/-- **The statements of the trace of a run are what has been sent in it.** -/
theorem Session.sent_run [Collation] (program : Program α) (session : Session) :
    (session.run environment limit program).1.machine.sent =
      session.machine.sent ++ (session.events environment limit program).map Event.statement := by
  induction program generalizing session with
  | done value => exact (List.append_nil _).symm
  | ask call next ih =>
    have sent : (session.step environment limit call).1.machine.sent = _ := session.sent_step call
    rw [run_ask, events_ask, List.map_append, ← List.append_assoc, ← sent]
    cases (session.step environment limit call).2 with
    | answer answer => exact ih answer _
    | late => exact (List.append_nil _).symm
    | crashed => exact (List.append_nil _).symm

theorem Session.sent_close_parting (session : Session) :
    session.close.sent = session.machine.sent ++ session.parting.map Event.statement := by
  unfold close parting
  cases session.connection with
  | none => exact (List.append_nil _).symm
  | some connection =>
    dsimp only
    split
    · rfl
    · exact (List.append_nil _).symm

end Runs

/-! ### Actions -/

variable [Collation]

/-- The session in which a program has ended that an action runs. -/
def Machine.finalSession (environment : Environment) (own : Option (Duration × α))
    (outer : Option Duration) (program : Program α) (machine : Machine) : Session :=
  (Session.run environment (bound own outer) program ⟨machine, none, 0⟩).1

/-- The trace of an action. -/
def Machine.events (environment : Environment) (outer : Option Duration) (action : Action α)
    (machine : Machine) : List Event :=
  match action with
  | .answered _ => []
  | .waiting own program =>
    Session.events environment (bound own outer) program ⟨machine, none, 0⟩ ++
      (machine.finalSession environment own outer program).parting

/-- The connections that are given back after an action. -/
def Machine.returned (environment : Environment) (outer : Option Duration) (action : Action α)
    (machine : Machine) : List Connection :=
  match action with
  | .answered _ => []
  | .waiting own program => (machine.finalSession environment own outer program).returned

/-- **The statements of the trace of an action are what has been sent for it.** -/
theorem Machine.sent_perform (action : Action α) (machine : Machine) :
    (machine.perform environment outer action).1.sent =
      machine.sent ++ (machine.events environment outer action).map Event.statement := by
  cases action with
  | answered value => exact (List.append_nil _).symm
  | waiting own program =>
    rw [perform_eq, Session.sent_close_parting, Session.sent_run, events, List.map_append,
      List.append_assoc]
    rfl

/-- After an action nobody has the turn to make an order, if nobody had it before. -/
theorem Machine.turnTaken_perform (action : Action α) {machine : Machine}
    (free : machine.turnTaken = false) :
    (machine.perform environment outer action).1.turnTaken = false := by
  cases action with
  | answered value => exact free
  | waiting own program =>
    rw [perform_eq]
    unfold Session.close
    dsimp only
    split
    · rfl
    · split <;> rfl

end Storefront
