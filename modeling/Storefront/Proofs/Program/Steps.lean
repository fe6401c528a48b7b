/-
**Runs step by step.**

A run is a sequence of steps: `Session.step` is one call in a session, with the session afterwards and
what the program gets for the call.  `Session.moments` lists the steps of a run.  An action that is
performed runs its program in one session, within the limit that applies (`Machine.bound`).

Main statements:

* `Session.send_reached`: a statement that can reach the database meets its fate there;
* `Session.run_ask`: a run is a step, and the run of the rest if there is an answer in time;
* `Machine.perform_eq`: an action is performed by a run whose session is closed.
-/

import Storefront.Execution.Run

namespace Storefront

variable [Collation] {α β : Type} {environment : Environment} {limit : Option Duration}

/-! ### Steps -/

/-- One call in a session: the session afterwards, and what the program gets. -/
def Session.step (environment : Environment) (limit : Option Duration) (session : Session) :
    (call : Call) → Session × Reply call.Answer
  | .freshId =>
    ({ session with machine := { session.machine with ids := session.machine.ids + 1 } },
      .answer (environment.id session.machine.ids))
  | .readClock =>
    ({ session with machine := { session.machine with readings := session.machine.readings + 1 } },
      .answer (.ofClock (environment.clock session.machine.readings)))
  | .takeTurn =>
    let session := session.pass environment
    if session.inTime limit then
      ({ session with machine := { session.machine with turnTaken := true } }, .answer ())
    else (session, .late)
  | .connect =>
    let (session, answer) := session.connect environment
    (session, session.reply limit answer)
  | .send statement => session.send environment limit statement

/-- What becomes of a statement that has reached the database on a connection. -/
def Session.meet (limit : Option Duration) (session : Session) (connection : Connection)
    (statement : Statement) : Fate → Session × Reply (Except DriverError (List Row))
  | .answered =>
    let (session, answer) := session.carryOut limit connection statement
    (session, session.reply limit answer)
  | .refused report =>
    let session := session.failTransaction connection
    (session, session.reply limit (.error (.refused report)))
  | .disconnected =>
    let session := session.withConnection none
    (session, session.reply limit (.error brokenConnection))
  | .silent => (session.withConnection none, .late)
  | .crashed => (session, .crashed)

section Statements

variable {session : Session} {connection : Connection} {statement : Statement}

/-- Without a connection a statement fails. -/
theorem Session.send_unconnected (free : session.connection = none) :
    session.send environment limit statement =
      (session.pass environment, (session.pass environment).reply limit (.error brokenConnection)) := by
  rw [send, show (session.pass environment).connection = none from free]

/-- Values that the server refuses keep a statement from reaching the database. -/
theorem Session.send_unaccepted {report : Report} (held : session.connection = some connection)
    (refused : statement.refused? = some report) :
    session.send environment limit statement =
      ((session.pass environment).failTransaction connection,
        ((session.pass environment).failTransaction connection).reply limit
          (.error (.refused report))) := by
  rw [send, show (session.pass environment).connection = some connection from held]
  dsimp only
  rw [refused]

/-- Any other statement meets its fate. -/
theorem Session.send_reached (held : session.connection = some connection)
    (accepted : statement.refused? = none) :
    session.send environment limit statement =
      ((session.pass environment).log statement).meet limit connection statement
        (environment.fate session.machine.sent statement) := by
  rw [send, show (session.pass environment).connection = some connection from held]
  dsimp only
  rw [accepted]
  dsimp only
  cases environment.fate session.machine.sent statement <;> rfl

end Statements

/-- A program goes on with an answer, and ends otherwise. -/
def Session.proceed (environment : Environment) (limit : Option Duration) {call : Call}
    (next : call.Answer → Program α) (session : Session) : Reply call.Answer → Session × Ending α
  | .answer answer => session.run environment limit (next answer)
  | .late => (session, .abandoned)
  | .crashed => (session, .crashed)

/-- **A run is a step, and the run of the rest** if there is an answer in time. -/
theorem Session.run_ask (call : Call) (next : call.Answer → Program α) (session : Session) :
    session.run environment limit (.ask call next) =
      (session.step environment limit call).1.proceed environment limit next
        (session.step environment limit call).2 := by
  cases call with
  | freshId => rfl
  | readClock => rfl
  | takeTurn =>
    rw [run, step]
    dsimp only
    split <;> rfl
  | connect =>
    rw [run, step]
    dsimp only
    unfold reply
    split <;> rfl
  | send statement =>
    rw [run, step]
    generalize session.send environment limit statement = sent
    obtain ⟨after, reply⟩ := sent
    cases reply <;> rfl

/-- A moment of a run: a call, where it is made, and what the program gets for it. -/
structure Moment where
  before : Session
  call : Call
  reply : Reply call.Answer

/-- The moments of a run. -/
def Session.moments (environment : Environment) (limit : Option Duration) :
    Program α → Session → List Moment
  | .done _, _ => []
  | .ask call next, session =>
    ⟨session, call, (session.step environment limit call).2⟩ ::
      match (session.step environment limit call).2 with
      | .answer answer => moments environment limit (next answer) (session.step environment limit call).1
      | _ => []

/-! ### Actions -/

/-- The limit within which a program is run: its own, unless the one around it is shorter. -/
def Machine.bound (own : Option (Duration × α)) (outer : Option Duration) : Option Duration :=
  match own with
  | none => outer
  | some (limit, _) => if decides limit outer then some limit else outer

/-- What a program that is cut off is answered: the answer that stands in if it is cut off by its own
limit. -/
def Machine.standIn (own : Option (Duration × α)) (outer : Option Duration) : Ending α → Ending α
  | .abandoned =>
    match own with
    | none => .abandoned
    | some (limit, instead) => if decides limit outer then .finished instead else .abandoned
  | ending => ending

/-- **An action is performed by a run** whose session is closed. -/
theorem Machine.perform_eq (own : Option (Duration × α)) (outer : Option Duration) (program : Program α)
    (machine : Machine) :
    machine.perform environment outer (.waiting own program) =
      ((Session.run environment (bound own outer) program ⟨machine, none, 0⟩).1.close,
        standIn own outer
          (Session.run environment (bound own outer) program ⟨machine, none, 0⟩).2) := by
  unfold perform
  cases own with
  | none =>
    change machine.run environment outer program = _
    unfold run bound
    dsimp only
    cases (Session.run environment outer program ⟨machine, none, 0⟩).2 <;> rfl
  | some own =>
    obtain ⟨limit, instead⟩ := own
    unfold run bound standIn
    dsimp only
    split
    · cases (Session.run environment (some limit) program ⟨machine, none, 0⟩).2 <;> rfl
    · cases (Session.run environment outer program ⟨machine, none, 0⟩).2 <;> rfl

/-- The moments of an action that is performed. -/
def Machine.moments (environment : Environment) (outer : Option Duration) (action : Action α)
    (machine : Machine) : List Moment :=
  match action with
  | .answered _ => []
  | .waiting own program =>
    Session.moments environment (bound own outer) program ⟨machine, none, 0⟩

end Storefront
