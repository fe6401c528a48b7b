/-
**Transactions along a run.**

A trace is read from left to right, with what is known of the transaction on the connection (`Phase`):
whether one is open, or that one may be open which has not gone well and can only be rolled back.
`Program.Orderly` says of a program that it begins a transaction only where none is open, and ends one
only where one is open, as long as nothing fails.  If the first failure ends the program besides, what
is known of the transaction is what the connection is like (`Session.At`), however the run goes.

Main statements:

* `Session.events_read`: what is known after a run is what the connection is like;
* `Machine.events_read`: after an action no transaction is open, and the connection that is given back
  is as good as a new one.
-/

import Storefront.Proofs.Program.Failures
import Storefront.Proofs.Program.Traces

namespace Storefront

variable {α β : Type}

/-! ### Phases -/

/-- Is a transaction open after the query has succeeded?  There is none that must not be sent; a
transaction is begun where none is open and ended where one is. -/
def Query.opened? (opened : Bool) : Query → Option Bool
  | .begin => if opened then none else some true
  | .commit | .rollback => if opened then some false else none
  | _ => some opened

/-- What is known of the transaction on a connection. -/
inductive Phase
  /-- Everything has gone well so far. -/
  | steady (opened : Bool)
  /-- A transaction may be open that can only be rolled back. -/
  | failing
deriving DecidableEq

namespace Phase

/-- What is known after a statement, if it opens a transaction, ends one or does neither. -/
def later (opened after : Bool) : Outcome → Phase
  | .succeeded => .steady after
  | .overdue => if opened || after then .failing else .steady false
  | .failed | .crashed => if opened then .failing else .steady false
  | .lost => .steady false

/-- What is known after an event, unless the event must not happen. -/
def next : Phase → Event → Option Phase
  | .steady opened, event =>
    (event.statement.query.opened? opened).map fun after => later opened after event.outcome
  | .failing, event => if event = .rollback then some (.steady false) else none

/-- What is known after a trace, unless something in it must not happen. -/
def read : Phase → List Event → Option Phase
  | phase, [] => some phase
  | phase, event :: rest => (phase.next event).bind fun phase => read phase rest

theorem read_append (phase : Phase) (first second : List Event) :
    phase.read (first ++ second) = (phase.read first).bind fun phase => phase.read second := by
  induction first generalizing phase with
  | nil => rfl
  | cons event rest ih =>
    rw [List.cons_append, read, read]
    cases phase.next event with
    | none => rfl
    | some later => exact ih later

end Phase

/-! ### Orderly programs -/

/-- Wherever the call is made with a transaction open or not, it may be made, and the program goes on
well unless it fails. -/
def Call.Orderly (opened : Bool) : (call : Call) → (call.Answer → Bool → Prop) → Prop
  | .freshId, goes => ∀ id, goes id opened
  | .readClock, goes => ∀ now, goes now opened
  | .takeTurn, goes => goes () opened
  | .connect, goes => opened = false ∧ goes (.ok ()) false
  | .send statement, goes =>
    ∃ after, statement.query.opened? opened = some after ∧ ∀ rows, goes (.ok rows) after

/-- As long as nothing fails, the program begins transactions only where none is open and ends them only
where one is. -/
def Program.Orderly : Program α → Bool → Prop
  | .done _, _ => True
  | .ask call next, opened => call.Orderly opened fun answer after => Orderly (next answer) after

theorem Call.Orderly.mono {opened : Bool} {call : Call} {first second : call.Answer → Bool → Prop}
    (orderly : call.Orderly opened first)
    (implies : ∀ answer after, first answer after → second answer after) :
    call.Orderly opened second := by
  cases call with
  | freshId => exact fun id => implies _ _ (orderly id)
  | readClock => exact fun now => implies _ _ (orderly now)
  | takeTurn => exact implies _ _ orderly
  | connect => exact ⟨orderly.1, implies _ _ orderly.2⟩
  | send statement =>
    obtain ⟨after, allowed, goes⟩ := orderly
    exact ⟨after, allowed, fun rows => implies _ _ (goes rows)⟩

/-- Changing the result begins and ends nothing. -/
theorem Program.Orderly.map {program : Program α} {opened : Bool} (orderly : program.Orderly opened)
    (f : α → β) : (f <$> program).Orderly opened := by
  induction program generalizing opened with
  | done value => trivial
  | ask call next ih => exact Call.Orderly.mono orderly fun answer after => ih answer

/-- However it ends, the program is orderly, started without a transaction. -/
def Program.Tidy (program : Program α) : Prop := program.Orderly false

/-- An action whose answer is changed is as orderly as it was. -/
theorem Action.tidy_program_map {f : α → β} {action : Action α} (tidy : action.program.Tidy) :
    (f <$> action).program.Tidy := by
  cases action with
  | answered value => trivial
  | waiting own program => exact Program.Orderly.map tidy f

/-! ### Connections -/

/-- A connection is like what is known of its transaction: without one it is as good as new, and
otherwise the program has to end one. -/
def Connection.Fits (connection : Connection) : Phase → Prop
  | .steady false => connection = {}
  | .steady true | .failing => connection.guarded = true

/-- What is known of the transaction of a session is what its connection is like; with no connection
there is no transaction. -/
def Session.At (session : Session) (phase : Phase) : Prop :=
  match session.connection with
  | none => phase = .steady false
  | some connection => connection.Fits phase

/-- A query that may be sent begins a transaction, ends one, or has nothing to do with them. -/
theorem Query.opened?_cases {query : Query} {opened after : Bool}
    (allowed : query.opened? opened = some after) :
    (query = .begin ∧ opened = false ∧ after = true) ∨
      ((query = .commit ∨ query = .rollback) ∧ opened = true ∧ after = false) ∨
      (after = opened ∧ query.opened? false = some false ∧
        ∀ inTime guarded, Session.guardedAfter query inTime guarded = guarded) := by
  cases query with
  | begin => cases opened with
    | false => exact Or.inl ⟨rfl, rfl, (Option.some.inj allowed).symm⟩
    | true => cases allowed
  | commit => cases opened with
    | false => cases allowed
    | true => exact Or.inr (Or.inl ⟨Or.inl rfl, rfl, (Option.some.inj allowed).symm⟩)
  | rollback => cases opened with
    | false => cases allowed
    | true => exact Or.inr (Or.inl ⟨Or.inr rfl, rfl, (Option.some.inj allowed).symm⟩)
  | _ => exact Or.inr (Or.inr ⟨(Option.some.inj allowed).symm, rfl, fun _ _ => rfl⟩)

section Server

variable [Collation] {tables : Tables} {statement : Statement}

/-- Outside of a transaction only its beginning opens one. -/
theorem execute_transaction_none (plain : statement.query.opened? false = some false) :
    (execute tables none statement).transaction = none := by
  unfold execute perform
  cases query : statement.query <;> simp_all [Query.opened?, Effect.found]
  split <;> rfl

/-- The end of a transaction is carried out and leaves none. -/
theorem execute_ended (transaction : Option Transaction)
    (ends : statement.query = .commit ∨ statement.query = .rollback) :
    (execute tables transaction statement).transaction = none ∧
      (execute tables transaction statement).answer = .ok [] := by
  unfold execute perform
  obtain query | query := ends
  · rw [query]
    split <;> exact ⟨rfl, rfl⟩
  · rw [query]
    split <;> exact ⟨rfl, rfl⟩

end Server

/-! ### Steps -/

section Steps

variable {environment : Environment} {limit : Option Duration} {session : Session} {opened after : Bool}
  {connection : Connection} {statement : Statement}

theorem Session.At.fits {phase : Phase} (known : session.At phase)
    (held : session.connection = some connection) : connection.Fits phase := by
  unfold At at known
  rw [held] at known
  exact known

theorem Connection.Fits.at {phase : Phase} (fits : connection.Fits phase)
    (held : session.connection = some connection) : session.At phase := by
  unfold Session.At
  rw [held]
  exact fits

/-- An answer that has been heard has come in time. -/
theorem Session.answered_of_reply {value heard : α} (answered : session.reply limit value = .answer heard) :
    session.inTime limit = true ∧ value = heard := by
  unfold reply at answered
  split at answered
  · next inTime =>
    cases answered
    exact ⟨inTime, rfl⟩
  · cases answered

/-- An error is no good answer. -/
theorem Session.reply_error_ne {cause : DriverError} {rows : List Row} :
    session.reply limit (.error cause) ≠ .answer (.ok rows : Except DriverError (List Row)) :=
  fun answered => nomatch (answered_of_reply answered).2

/-- After a statement that has not gone well a transaction, if one is open, can only be rolled back. -/
theorem Connection.Fits.fail (fits : connection.Fits (.steady opened)) :
    connection.Fits (if opened then .failing else .steady false) := by
  cases opened <;> exact fits

/-- What the server marks as failed is known to be so. -/
theorem Connection.Fits.failed {phase : Phase} (fits : connection.Fits phase) :
    Connection.Fits { connection with
      transaction := connection.transaction.map fun transaction =>
        { transaction with failed := true } } phase := by
  cases phase with
  | failing => exact fits
  | steady opened =>
    cases opened with
    | false =>
      obtain rfl : connection = {} := fits
      rfl
    | true => exact fits

variable [Collation]

/-- The connection after a statement to which the server has an answer of its own is like what is known
then. -/
theorem Connection.Fits.carried (fits : connection.Fits (.steady opened)) (tables : Tables)
    (allowed : statement.query.opened? opened = some after) (inTime : Bool) :
    Connection.Fits
      ⟨(execute tables connection.transaction statement).transaction,
        match (execute tables connection.transaction statement).answer with
        | .ok _ => Session.guardedAfter statement.query inTime connection.guarded
        | .error _ => connection.guarded⟩
      (.later opened after
        (.ofAnswer inTime (execute tables connection.transaction statement).answer)) := by
  obtain ⟨query, rfl, rfl⟩ | ⟨query, rfl, rfl⟩ | ⟨rfl, plain, guard⟩ := Query.opened?_cases allowed
  · obtain rfl : connection = {} := fits
    have answer : (execute tables none statement).answer = .ok [] := by
      unfold execute perform
      rw [query]
      rfl
    rw [answer, query]
    cases inTime <;> rfl
  · obtain ⟨transaction, answer⟩ := @execute_ended _ tables _ connection.transaction query
    have guarded : connection.guarded = true := fits
    rw [transaction, answer]
    cases inTime with
    | false => obtain query | query := query <;> rw [query] <;> exact guarded
    | true => obtain query | query := query <;> rw [query] <;> rfl
  · cases after with
    | true =>
      have guarded : connection.guarded = true := fits
      cases (execute tables connection.transaction statement).answer with
      | error report => exact guarded
      | ok rows =>
        dsimp only
        rw [guard, guarded]
        cases inTime <;> rfl
    | false =>
      obtain rfl : connection = {} := fits
      dsimp only
      rw [execute_transaction_none plain]
      cases (execute tables none statement).answer with
      | error report => rfl
      | ok rows =>
        dsimp only
        rw [guard]
        cases inTime <;> rfl

/-- A statement that reaches the database leaves the connection like what is known of its fate, and if
it is answered well the transaction is open or not as the query says. -/
theorem Session.meet_at (held : session.connection = some connection)
    (fits : connection.Fits (.steady opened)) (allowed : statement.query.opened? opened = some after) :
    (((session.pass environment).log statement).meet limit connection statement
        (environment.fate session.machine.sent statement)).1.At
      (.later opened after (session.outcome environment limit connection statement)) ∧
    ∀ rows, (((session.pass environment).log statement).meet limit connection statement
        (environment.fate session.machine.sent statement)).2 = .answer (.ok rows) →
      Phase.later opened after (session.outcome environment limit connection statement) =
        .steady after := by
  unfold outcome
  cases environment.fate session.machine.sent statement with
  | answered =>
    have carried := fits.carried session.machine.tables allowed ((session.pass environment).inTime limit)
    refine ⟨carried, fun rows heard => ?_⟩
    obtain ⟨inTime, answer⟩ := answered_of_reply heard
    have inTime' : (session.pass environment).inTime limit = true := inTime
    have answer' : (execute session.machine.tables connection.transaction statement).answer.mapError
        DriverError.refused = .ok rows := answer
    dsimp only
    rw [inTime']
    cases own : (execute session.machine.tables connection.transaction statement).answer with
    | ok rows => rfl
    | error report => rw [own] at answer'; cases answer'
  | refused report => exact ⟨fits.fail.failed, fun rows heard => absurd heard reply_error_ne⟩
  | disconnected => exact ⟨rfl, fun rows heard => absurd heard reply_error_ne⟩
  | silent =>
    refine ⟨rfl, fun rows impossible => ?_⟩
    cases impossible
  | crashed =>
    have still : ((session.pass environment).log statement).connection = some connection := held
    refine ⟨fits.fail.at still, fun rows impossible => ?_⟩
    cases impossible

/-- **What is known after a statement** is what the connection is like, and if it is answered well the
transaction is open or not as the query says. -/
theorem Session.send_at (known : session.At (.steady opened))
    (allowed : statement.query.opened? opened = some after) :
    ∃ phase, (Phase.steady opened).read (session.event? environment limit (.send statement)).toList =
        some phase ∧
      (session.send environment limit statement).1.At phase ∧
      ∀ rows, (session.send environment limit statement).2 = .answer (.ok rows) →
        phase = .steady after := by
  cases held : session.connection with
  | none =>
    rw [send_unconnected held, event?, held]
    exact ⟨_, rfl, known, fun rows heard => absurd heard reply_error_ne⟩
  | some connection =>
    have fits := known.fits held
    cases refused : statement.refused? with
    | some report =>
      rw [send_unaccepted held refused, event?, held, refused]
      exact ⟨_, rfl, fits.failed, fun rows heard => absurd heard reply_error_ne⟩
    | none =>
      have read : (Phase.steady opened).read
          [⟨statement, session.outcome environment limit connection statement⟩] =
            some (.later opened after (session.outcome environment limit connection statement)) := by
        rw [Phase.read, Phase.next, allowed]
        rfl
      rw [send_reached held refused, event?, held, refused]
      exact ⟨_, read, meet_at held fits allowed⟩

/-- A call that brings nothing to the database leaves it to the rest of the run what is known. -/
theorem Session.read_of_quiet {call : Call} {next : call.Answer → Program α}
    (silent : session.event? environment limit call = none)
    (standing : (session.step environment limit call).1.At (.steady opened))
    (goes : ∀ answer, (session.step environment limit call).2 = .answer answer →
      ∃ phase, (Phase.steady opened).read ((session.step environment limit call).1.events
          environment limit (next answer)) = some phase ∧
        ((session.step environment limit call).1.run environment limit (next answer)).1.At phase) :
    ∃ phase, (Phase.steady opened).read (session.events environment limit (.ask call next)) =
        some phase ∧
      (session.run environment limit (.ask call next)).1.At phase := by
  rw [events_ask, run_ask, silent]
  cases reply : (session.step environment limit call).2 with
  | answer answer => exact goes answer reply
  | late => exact ⟨_, rfl, standing⟩
  | crashed => exact ⟨_, rfl, standing⟩

/-- **What is known along a run** of an orderly program that its first failure ends is what the
connection is like in the end. -/
theorem Session.events_read {fail : DriverError → α} {program : Program α}
    (fails : program.FailsAs fail) (orderly : program.Orderly opened)
    (known : session.At (.steady opened)) :
    ∃ phase, (Phase.steady opened).read (session.events environment limit program) = some phase ∧
      (session.run environment limit program).1.At phase := by
  induction program generalizing session opened with
  | done value => exact ⟨_, rfl, known⟩
  | ask call next ih =>
    cases call with
    | freshId => exact read_of_quiet rfl known fun id _ => ih id (fails id).2 (orderly id) known
    | readClock => exact read_of_quiet rfl known fun now _ => ih now (fails now).2 (orderly now) known
    | takeTurn =>
      have standing : (session.step environment limit .takeTurn).1.At (.steady opened) := by
        rw [step]
        dsimp only
        split <;> exact known
      exact read_of_quiet rfl standing fun _ _ => ih () (fails ()).2 orderly standing
    | connect =>
      obtain ⟨rfl, goes⟩ := orderly
      have standing : (session.step environment limit .connect).1.At (.steady false) := by
        rw [step, connect]
        dsimp only
        split
        · rfl
        · exact known
        · exact known
      refine read_of_quiet rfl standing fun answer _ => ?_
      cases answer with
      | ok done => exact ih (.ok ()) (fails (.ok ())).2 goes standing
      | error cause =>
        rw [(fails (.error cause)).1 cause rfl]
        exact ⟨_, rfl, standing⟩
    | send statement =>
      obtain ⟨after, allowed, goes⟩ := orderly
      obtain ⟨phase, read, standing, answered⟩ :=
        @send_at environment limit session _ _ _ _ known allowed
      rw [events_ask, run_ask, Phase.read_append, read, step]
      cases reply : (session.send environment limit statement).2 with
      | late => exact ⟨phase, rfl, standing⟩
      | crashed => exact ⟨phase, rfl, standing⟩
      | answer answer =>
        cases answer with
        | ok rows =>
          obtain rfl := answered rows reply
          exact ih (.ok rows) (fails (.ok rows)).2 (goes rows) standing
        | error cause =>
          dsimp only [proceed]
          rw [(fails (.error cause)).1 cause rfl]
          exact ⟨phase, rfl, standing⟩

end Steps

/-! ### Endings -/

/-- A connection that is given back has its transaction ended, and is as good as a new one. -/
theorem Session.At.parting [Collation] {session : Session} {phase : Phase} (known : session.At phase) :
    phase.read session.parting = some (.steady false) ∧
      ∀ connection ∈ session.returned, connection = {} := by
  unfold Session.parting Session.returned
  cases held : session.connection with
  | none =>
    unfold At at known
    rw [held] at known
    subst known
    exact ⟨rfl, nofun⟩
  | some connection =>
    have fits := known.fits held
    have ended : (execute session.machine.tables connection.transaction ⟨.rollback, []⟩).transaction =
        none := (execute_ended _ (Or.inr rfl)).1
    dsimp only
    cases guarded : connection.guarded with
    | true =>
      refine ⟨?_, fun other member => ?_⟩
      · cases phase with
        | failing => rfl
        | steady opened =>
          cases opened with
          | true => rfl
          | false =>
            obtain rfl : connection = {} := fits
            cases guarded
      · obtain rfl := List.mem_singleton.mp member
        rw [ended]
    | false =>
      have steady : phase = .steady false := by
        cases phase with
        | failing => exact absurd (guarded.symm.trans fits) nofun
        | steady opened =>
          cases opened with
          | true => exact absurd (guarded.symm.trans fits) nofun
          | false => rfl
      subst steady
      refine ⟨rfl, fun other member => ?_⟩
      rw [List.mem_singleton.mp member]
      exact fits

/-- **After an action no transaction is open**, and the connection that is given back is as good as a
new one. -/
theorem Machine.events_read [Collation] {environment : Environment} {outer : Option Duration}
    {fail : DriverError → α} {action : Action α} (fails : action.program.FailsAs fail)
    (tidy : action.program.Tidy) (machine : Machine) :
    (Phase.steady false).read (machine.events environment outer action) = some (.steady false) ∧
      ∀ connection ∈ machine.returned environment outer action, connection = {} := by
  cases action with
  | answered value => exact ⟨rfl, nofun⟩
  | waiting own program =>
    have fresh : (⟨machine, none, 0⟩ : Session).At (.steady false) := rfl
    obtain ⟨phase, read, known⟩ :=
      @Session.events_read _ environment (bound own outer) _ _ _ fail _ fails tidy fresh
    obtain ⟨parted, returned⟩ := known.parting
    refine ⟨?_, returned⟩
    rw [events, Phase.read_append]
    exact (congrArg (Option.bind · _) read).trans parted

end Storefront
