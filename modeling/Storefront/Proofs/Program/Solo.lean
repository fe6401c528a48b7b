/-
**Undisturbed programs.**

A program that nothing disturbs is a function of the tables, the identifiers and the readings of the
clock: `Program.solo` computes its result and what it leaves behind.  This is what a program does
when it is run alone, without a limit, in a healthy environment (`Machine.run_solo`).

Main statements:

* `Operation.solo_bind`: one operation after another;
* `Session.run_solo`, `Machine.run_solo`: running an undisturbed program comes to what it computes.
-/

import Storefront.Proofs.Program.Keeps

namespace Storefront

/-- An environment in which nothing goes wrong and nothing takes time. -/
def Environment.smooth (id : Nat → Uuid) (clock : Nat → Int) : Environment where
  id := id
  clock := clock
  delay _ := 0
  fate _ _ := .answered

theorem Environment.healthy_smooth (id : Nat → Uuid) (clock : Nat → Int) :
    (smooth id clock).Healthy :=
  fun _ _ => rfl

/-- A smooth environment with distinct identifiers. -/
def Environment.sample : Environment :=
  .smooth (fun count => .numbered (10 + count)) fun count => 1000 * count

/-- What an undisturbed program finds and leaves behind. -/
structure Solo where
  tables : Tables
  connection : Option Connection := none
  /-- How many identifiers have been given out. -/
  ids : Nat := 0
  /-- How often the clock has been read. -/
  readings : Nat := 0

/-- The answer to a statement that nothing disturbs. -/
def Solo.send [Collation] (solo : Solo) (statement : Statement) : Except DriverError
    (List Row) × Solo :=
  match solo.connection with
  | none => (.error brokenConnection, solo)
  | some connection =>
    match statement.refused? with
    | some report => (.error (.refused report), { solo with connection := some connection.failed })
    | none =>
      let effect := execute solo.tables connection.transaction statement
      (effect.answer.mapError .refused,
        { solo with tables := effect.tables, connection := some (connection.after statement effect) })

/-- The result of an undisturbed program, and what it leaves behind. -/
def Program.solo [Collation] {α : Type} (id : Nat → Uuid) (clock : Nat → Int) :
    Program α → Solo → α × Solo
  | .done value, solo => (value, solo)
  | .ask .freshId next, solo => (next (id solo.ids)).solo id clock { solo with ids := solo.ids + 1 }
  | .ask .readClock next, solo =>
    (next (.ofClock (clock solo.readings))).solo id clock { solo with readings := solo.readings + 1 }
  | .ask .takeTurn next, solo => (next ()).solo id clock solo
  | .ask .connect next, solo => (next (.ok ())).solo id clock { solo with connection := some {} }
  | .ask (.send statement) next, solo =>
    (next (solo.send statement).1).solo id clock (solo.send statement).2

/-- Is there no limit for the action? -/
def Action.Unlimited {α : Type} : Action α → Prop
  | .waiting (some _) _ => False
  | _ => True

theorem mapError_ok {ε δ α : Type} {sort : ε → δ} {value : α} :
    (.ok value : Except ε α).mapError sort = .ok value := rfl

theorem mapError_error {ε δ α : Type} {sort : ε → δ} {cause : ε} :
    (.error cause : Except ε α).mapError sort = .error (sort cause) := rfl

variable [Collation]

section Operations

variable {α β : Type} {id : Nat → Uuid} {clock : Nat → Int} {solo : Solo}
  {fail : DriverError → StoreError}

theorem Program.solo_bind {program : Program α} {next : α → Program β} :
    (program >>= next).solo id clock solo =
      (next (program.solo id clock solo).1).solo id clock (program.solo id clock solo).2 := by
  induction program generalizing solo with
  | done value => rfl
  | ask call rest ih =>
    rw [ask_bind]
    cases call <;> exact ih _

/-- Changing the answer changes nothing else. -/
theorem Action.solo_program_map {f : α → β} {action : Action α} :
    (f <$> action).program.solo id clock solo =
      (f (action.program.solo id clock solo).1, (action.program.solo id clock solo).2) := by
  cases action with
  | answered value => rfl
  | waiting limit program => exact Program.solo_bind

namespace Operation

/-- One operation after another. -/
theorem solo_bind {operation : Operation α} {next : α → Operation β} :
    (operation >>= next).run.solo id clock solo =
      match operation.run.solo id clock solo with
      | (.ok value, after) => (next value).run.solo id clock after
      | (.error cause, after) => (.error cause, after) := by
  have whole : (operation >>= next).run.solo id clock solo =
      (ExceptT.bindCont next (operation.run.solo id clock solo).1).solo id clock
        (operation.run.solo id clock solo).2 := Program.solo_bind
  rw [whole]
  cases operation.run.solo id clock solo with
  | mk result after =>
    cases result with
    | ok value => rfl
    | error cause => rfl

/-- After a failure nothing is done. -/
theorem solo_bind_error {operation : Operation α} {next : α → Operation β} {cause : StoreError}
    (fails : (operation.run.solo id clock solo).1 = .error cause) :
    ((operation >>= next).run.solo id clock solo).1 = .error cause := by
  rw [solo_bind]
  generalize operation.run.solo id clock solo = ran at fails
  obtain ⟨result, after⟩ := ran
  obtain rfl : result = .error cause := fails
  rfl

theorem solo_pure {value : α} :
    (pure value : Operation α).run.solo id clock solo = (.ok value, solo) := rfl

theorem solo_known {result : Except DriverError α} :
    (known fail result).run.solo id clock solo = (result.mapError fail, solo) := rfl

theorem solo_freshId :
    freshId.run.solo id clock solo = (.ok (id solo.ids), { solo with ids := solo.ids + 1 }) := rfl

theorem solo_readClock :
    readClock.run.solo id clock solo =
      (.ok (.ofClock (clock solo.readings)), { solo with readings := solo.readings + 1 }) := rfl

theorem solo_takeTurn : takeTurn.run.solo id clock solo = (.ok (), solo) := rfl

theorem solo_connect :
    (connect fail).run.solo id clock solo = (.ok (), { solo with connection := some {} }) := rfl

theorem solo_send {query : Query} {values : List Cell} :
    (send fail query values).run.solo id clock solo =
      ((solo.send ⟨query, values⟩).1.mapError fail, (solo.send ⟨query, values⟩).2) := rfl

/-- A statement whose values are let through, on a connection. -/
theorem solo_send_of_held {query : Query} {values : List Cell} {connection : Connection}
    (held : solo.connection = some connection)
    (accepted : (⟨query, values⟩ : Statement).refused? = none) :
    (send fail query values).run.solo id clock solo =
      (((execute solo.tables connection.transaction ⟨query, values⟩).answer.mapError .refused).mapError
          fail,
        { solo with
          tables := (execute solo.tables connection.transaction ⟨query, values⟩).tables
          connection := some (connection.after ⟨query, values⟩
            (execute solo.tables connection.transaction ⟨query, values⟩)) }) := by
  rw [solo_send, Solo.send, held]
  dsimp only
  rw [accepted]

end Operation

end Operations

/-! ### Running undisturbed programs -/

/-- What a session is for an undisturbed program. -/
def Session.solo (session : Session) : Solo where
  tables := session.machine.tables
  connection := session.connection
  ids := session.machine.ids
  readings := session.machine.readings

section Runs

variable {α : Type} {environment : Environment}

/-- Sending a statement undisturbed. -/
theorem Session.send_solo (healthy : environment.Healthy) (session : Session)
    (statement : Statement) :
    ∃ after, session.send environment none statement =
        (after, .answer (session.solo.send statement).1) ∧
      after.solo = (session.solo.send statement).2 ∧ after.machine.pool = session.machine.pool := by
  unfold send Solo.send
  dsimp only
  rw [healthy session.machine.sent statement, show session.solo.connection =
    session.connection from rfl,
    show (session.pass environment).connection = session.connection from rfl]
  cases held : session.connection with
  | none => exact ⟨_, rfl, by unfold solo pass; rw [held], rfl⟩
  | some connection =>
    dsimp only
    cases statement.refused? with
    | some report => exact ⟨_, rfl, rfl, rfl⟩
    | none => exact ⟨_, rfl, rfl, rfl⟩

/-- Running an undisturbed program in a session comes to what it computes. -/
theorem Session.run_solo (healthy : environment.Healthy) (program : Program α) (session : Session)
    (available : session.machine.pool = .open) :
    (session.run environment none program).2 =
        .finished (program.solo environment.id environment.clock session.solo).1 ∧
      (session.run environment none program).1.solo =
        (program.solo environment.id environment.clock session.solo).2 := by
  induction program generalizing session with
  | done value => exact ⟨rfl, rfl⟩
  | ask call next ih =>
    cases call with
    | freshId => exact ih _ _ available
    | readClock => exact ih _ _ available
    | takeTurn => exact ih _ _ available
    | connect =>
      have connected : session.connect environment =
          ((session.pass environment).withConnection (some {}), .ok ()) := by
        unfold connect
        dsimp only
        rw [show (session.pass environment).machine.pool = session.machine.pool from rfl, available]
      rw [run, connected]
      exact ih _ _ available
    | send statement =>
      obtain ⟨after, sent, left, pool⟩ := send_solo healthy session statement
      rw [run, sent]
      dsimp only
      rw [Program.solo, ← left]
      exact ih _ after (pool.trans available)

/-- Running an undisturbed program on a machine comes to what it computes. -/
theorem Machine.run_solo (healthy : environment.Healthy) (program : Program α) (machine : Machine)
    (available : machine.pool = .open) :
    (machine.run environment none program).2 =
        .finished (program.solo environment.id environment.clock ⟨machine.tables, none, machine.ids,
          machine.readings⟩).1 ∧
      (machine.run environment none program).1.tables =
        (program.solo environment.id environment.clock ⟨machine.tables, none, machine.ids,
          machine.readings⟩).2.tables := by
  obtain ⟨result, left⟩ := Session.run_solo healthy program ⟨machine, none, 0⟩ available
  refine ⟨result, ?_⟩
  unfold run
  dsimp only
  rw [Session.tables_close]
  exact congrArg Solo.tables left

/-- Performing an undisturbed action comes to what its program computes. -/
theorem Machine.perform_solo (healthy : environment.Healthy) {action : Action α}
    (unlimited : action.Unlimited) (machine : Machine) (available : machine.pool = .open) :
    (machine.perform environment none action).2 =
        .finished (action.program.solo environment.id environment.clock
          ⟨machine.tables, none, machine.ids,
          machine.readings⟩).1 ∧
      (machine.perform environment none action).1.tables =
        (action.program.solo environment.id environment.clock ⟨machine.tables, none, machine.ids,
          machine.readings⟩).2.tables := by
  cases action with
  | answered value => exact ⟨rfl, rfl⟩
  | waiting limit program =>
    cases limit with
    | some bound => cases unlimited
    | none => exact run_solo healthy program machine available

end Runs

end Storefront
