/-
**Running programs.**

`Machine.run` runs a program on a machine in an environment, within a limit for the time that all of its
waits take together.  When the limit passes the program is dropped where it stands.  `Machine.perform` runs
an action within a further limit: whichever of the two limits is shorter decides what the answer is.

Main statements:

* `run_tables`: running a program only adds rows;
* `turnTaken_run`: afterwards the turn to make an order is free.
-/

import Storefront.Execution.Machine
import Storefront.Store.Action

namespace Storefront

/-- How running a program ends. -/
inductive Ending (α : Type)
  | finished (value : α)
  /-- The program was dropped: a limit passed, or an answer never came. -/
  | abandoned
  /-- The program broke down. -/
  | crashed
deriving DecidableEq

namespace Session

variable {α : Type}

/-- Runs a program in a session. -/
def run [Collation] (environment : Environment) (limit : Option Duration) : Program α → Session →
    Session × Ending α
  | .done value, session => (session, .finished value)
  | .ask .freshId next, session =>
    let machine := { session.machine with ids := session.machine.ids + 1 }
    run environment limit (next (environment.id session.machine.ids)) { session with machine := machine }
  | .ask .readClock next, session =>
    let machine := { session.machine with readings := session.machine.readings + 1 }
    run environment limit (next (.ofClock (environment.clock session.machine.readings)))
      { session with machine := machine }
  | .ask .takeTurn next, session =>
    let session := session.pass environment
    if session.inTime limit then
      run environment limit (next ())
        { session with machine := { session.machine with turnTaken := true } }
    else (session, .abandoned)
  | .ask .connect next, session =>
    let (session, answer) := session.connect environment
    if session.inTime limit then run environment limit (next answer) session
    else (session, .abandoned)
  | .ask (.send statement) next, session =>
    match session.send environment limit statement with
    | (session, .answer answer) => run environment limit (next answer) session
    | (session, .late) => (session, .abandoned)
    | (session, .crashed) => (session, .crashed)

end Session

namespace Machine

variable [Collation] {α : Type}

/-- What becomes of a machine when a program runs on it from beginning to end, and what the program comes
to. Whatever the program has left open is closed. -/
def run (environment : Environment) (limit : Option Duration) (program : Program α)
    (machine : Machine) : Machine × Ending α :=
  let (session, ending) := Session.run environment limit program ⟨machine, none, 0⟩
  (session.close, ending)

/-- Is the limit of a program no longer than the one around it? -/
def decides (limit : Duration) : Option Duration → Bool
  | none => true
  | some outer => limit.nanos ≤ outer.nanos

/-- Runs an action within a limit around its own one. -/
def perform (environment : Environment) (outer : Option Duration) (action : Action α)
    (machine : Machine) : Machine × Ending α :=
  match action with
  | .answered value => (machine, .finished value)
  | .waiting none program => run environment outer program machine
  | .waiting (some (limit, instead)) program =>
    if decides limit outer then
      match run environment (some limit) program machine with
      | (machine, .abandoned) => (machine, .finished instead)
      | (machine, ending) => (machine, ending)
    else run environment outer program machine

end Machine

/-! ### What becomes of the tables -/

/-- Rows may have been added behind those that were there. -/
def Tables.Extends (later earlier : Tables) : Prop := ∃ rows, later = earlier ++ rows

theorem Tables.Extends.refl (tables : Tables) : tables.Extends tables :=
  ⟨.empty, (Tables.append_empty tables).symm⟩

theorem Tables.Extends.trans {first second third : Tables} (later : third.Extends second)
    (earlier : second.Extends first) : third.Extends first := by
  obtain ⟨added, rfl⟩ := earlier
  obtain ⟨more, rfl⟩ := later
  exact ⟨added ++ more, Tables.append_assoc _ _ _⟩

theorem Session.tables_connect (environment : Environment) (session : Session) :
    (session.connect environment).1.machine.tables = session.machine.tables := by
  unfold connect pass
  dsimp only
  split <;> rfl

theorem Session.tables_send [Collation] (environment : Environment) (limit : Option Duration)
    (session : Session) (statement : Statement) :
    (session.send environment limit statement).1.machine.tables.Extends session.machine.tables := by
  unfold send
  dsimp only
  split
  · exact .refl _
  · split
    · exact .refl _
    · split
      · exact execute_tables _ _ _
      all_goals exact .refl _

theorem Session.tables_run [Collation] {α : Type} (environment : Environment) (limit : Option Duration)
    (program : Program α) (session : Session) :
    (session.run environment limit program).1.machine.tables.Extends session.machine.tables := by
  fun_induction run environment limit program session with
  | case1 => exact .refl _
  | case2 next session machine ih => exact ih
  | case3 next session machine ih => exact ih
  | case4 next session passed inTime ih => exact ih
  | case5 => exact .refl _
  | case6 next session connected answer found inTime ih =>
    have same := tables_connect environment session
    rw [found] at same
    exact same ▸ ih
  | case7 next session connected answer found late =>
    have same := tables_connect environment session
    rw [found] at same
    exact same ▸ .refl _
  | case8 statement next session later answer found ih =>
    have added := tables_send environment limit session statement
    rw [found] at added
    exact ih.trans added
  | case9 statement next session later found =>
    have added := tables_send environment limit session statement
    rw [found] at added
    exact added
  | case10 statement next session later found =>
    have added := tables_send environment limit session statement
    rw [found] at added
    exact added

theorem Session.tables_close (session : Session) : session.close.tables = session.machine.tables := by
  unfold close
  dsimp only
  split
  · rfl
  · split <;> rfl

/-- Running a program only adds rows. -/
theorem Machine.run_tables [Collation] {α : Type} (environment : Environment) (limit : Option Duration)
    (program : Program α) (machine : Machine) :
    (machine.run environment limit program).1.tables.Extends machine.tables := by
  unfold run
  dsimp only
  rw [Session.tables_close]
  exact Session.tables_run environment limit program ⟨machine, none, 0⟩

/-- Afterwards the turn to make an order is free. -/
theorem Machine.turnTaken_run [Collation] {α : Type} (environment : Environment)
    (limit : Option Duration) (program : Program α) (machine : Machine) :
    (machine.run environment limit program).1.turnTaken = false := by
  unfold run Session.close
  dsimp only
  split
  · rfl
  · split <;> rfl

end Storefront
