/-
**Operations of one statement.**

To look a row up under a value and to add a row come to one statement each: `Operation.single` asks for
a connection, sends it, and reads the first row of the answer.  `Machine.Single` lists all that can
become of that, and what a healthy database that can be reached leaves of it.

Main statements:

* `Session.run_single`: nothing else becomes of a run;
* `Machine.perform_single`: nor of an operation that is performed within limits.
-/

import Storefront.Proofs.Program.Endings
import Storefront.Proofs.Program.Steps

namespace Storefront

variable {α : Type} {environment : Environment}

/-- Has the operation been cut off before its answer was heard? -/
def Ending.Cut (ending : Ending (Except StoreError α)) : Prop :=
  ending = .abandoned ∨ ∃ limit, ending = .finished (.error (.timeout limit))

namespace Operation

/-- One statement, and the record of the first row that answers it. -/
def single (statement : Statement) (missing : StoreError) (read : Row → Except DriverError α) :
    Operation α := do
  connect .ofDriver
  let rows ← send .ofDriver statement.query statement.values
  firstRow .ofDriver missing read rows

/-- What an answer to the statement is taken for. -/
def taken (missing : StoreError) (read : Row → Except DriverError α) :
    Except DriverError (List Row) → Except StoreError α
  | .error cause => .error (.ofDriver cause)
  | .ok [] => .error missing
  | .ok (row :: _) => (read row).mapError .ofDriver

/-- The calls of such an operation. -/
theorem run_single (statement : Statement) (missing : StoreError) (read : Row → Except DriverError α) :
    (single statement missing read).run =
      .ask .connect fun connected => match connected with
        | .error cause => .done (.error (.ofDriver cause))
        | .ok () => .ask (.send statement) fun answer => .done (taken missing read answer) := by
  refine congrArg (Program.ask .connect) (funext fun connected => ?_)
  cases connected with
  | error cause => rfl
  | ok done =>
    refine congrArg (Program.ask (.send statement)) (funext fun answer => ?_)
    cases answer with
    | error cause => rfl
    | ok rows => cases rows <;> rfl

end Operation

/-! ### What becomes of the statement -/

/-- What can become of an operation of one statement: the tables afterwards, and its ending.  `taken` is
what an answer to the statement is taken for, and `cut` says what the ending is like if the answer is
not heard. -/
inductive Machine.Single [Collation] (environment : Environment) (before : Machine)
    (statement : Statement) (taken : Except DriverError (List Row) → Except StoreError α)
    (cut : Ending (Except StoreError α) → Prop) : Tables → Ending (Except StoreError α) → Prop
  | carriedOut {ending : Ending (Except StoreError α)} (accepted : statement.refused? = none)
      (heard : ending = .finished
        (taken ((execute before.tables none statement).answer.mapError .refused)) ∨ cut ending) :
      Single environment before statement taken cut (execute before.tables none statement).tables ending
  | refused {ending : Ending (Except StoreError α)} {report : Report}
      (refused : statement.refused? = some report)
      (heard : ending = .finished (taken (.error (.refused report))) ∨ cut ending) :
      Single environment before statement taken cut before.tables ending
  | unsent {ending : Ending (Except StoreError α)} (unheard : cut ending) :
      Single environment before statement taken cut before.tables ending
  /-- Something has gone wrong. -/
  | disturbed {ending : Ending (Except StoreError α)}
      (ill : environment.Healthy → before.pool ≠ .open)
      (fails : ending = .crashed ∨ ∃ cause, ending = .finished (taken (.error cause))) :
      Single environment before statement taken cut before.tables ending

namespace Machine.Single

variable [Collation] {before : Machine} {statement : Statement} {tables : Tables}
  {taken : Except DriverError (List Row) → Except StoreError α}
  {cut other : Ending (Except StoreError α) → Prop} {ending : Ending (Except StoreError α)}

theorem mono (single : before.Single environment statement taken cut tables ending)
    (implies : cut ending → other ending) :
    before.Single environment statement taken other tables ending := by
  cases single with
  | carriedOut accepted heard => exact .carriedOut accepted (heard.imp_right implies)
  | refused refused heard => exact .refused refused (heard.imp_right implies)
  | unsent unheard => exact .unsent (implies unheard)
  | disturbed ill fails => exact .disturbed ill fails

/-- An operation that is cut off may be answered in its stead. -/
theorem of_abandoned (single : before.Single environment statement taken cut tables .abandoned)
    (unheard : other ending) : before.Single environment statement taken other tables ending := by
  cases single with
  | carriedOut accepted _ => exact .carriedOut accepted (Or.inr unheard)
  | refused refused _ => exact .refused refused (Or.inr unheard)
  | unsent _ => exact .unsent unheard
  | disturbed _ fails =>
    obtain impossible | ⟨_, impossible⟩ := fails
    · cases impossible
    · cases impossible

end Machine.Single

section Runs

variable {limit : Option Duration} {statement : Statement} {missing : StoreError}
  {read : Row → Except DriverError α}

/-- The answer to the last statement is heard in time, or the operation is cut off. -/
theorem Session.run_reply [Collation] {session after : Session} {answer : Except DriverError (List Row)}
    (taken : Except DriverError (List Row) → Except StoreError α)
    (sent : session.send environment limit statement = (after, after.reply limit answer)) :
    ∃ ending : Ending (Except StoreError α),
      session.run environment limit (.ask (.send statement) fun answer => .done (taken answer)) =
          (after, ending) ∧
        (ending = .finished (taken answer) ∨ ending = .abandoned) := by
  rw [run, sent]
  unfold reply
  by_cases punctual : after.inTime limit = true
  · rw [if_pos punctual]
    exact ⟨_, rfl, Or.inl rfl⟩
  · rw [if_neg punctual]
    exact ⟨_, rfl, Or.inr rfl⟩

/-- A statement that fails by no fault of its own. -/
theorem Session.single_of_failed [Collation] {session after : Session} {before : Machine}
    {cause : DriverError} (taken : Except DriverError (List Row) → Except StoreError α)
    (ill : environment.Healthy → before.pool ≠ .open) (tables : after.machine.tables = before.tables)
    (sent : session.send environment limit statement = (after, after.reply limit (.error cause))) :
    ∃ (after : Session) (ending : Ending (Except StoreError α)),
      session.run environment limit (.ask (.send statement) fun answer => .done (taken answer)) =
          (after, ending) ∧
        before.Single environment statement taken (· = .abandoned) after.machine.tables ending := by
  obtain ⟨ending, ran, heard⟩ := run_reply taken sent
  refine ⟨after, ending, ran, tables ▸ ?_⟩
  obtain finished | cut := heard
  · exact .disturbed ill (Or.inr ⟨cause, finished⟩)
  · exact .unsent cut

/-- A statement that has reached the database. -/
theorem Session.single_of_meet [Collation] {session reached : Session} {before : Machine} {fate : Fate}
    (taken : Except DriverError (List Row) → Except StoreError α) (accepted : statement.refused? = none)
    (tables : reached.machine.tables = before.tables)
    (well : environment.Healthy → fate = .answered)
    (sent : session.send environment limit statement = reached.meet limit {} statement fate) :
    ∃ (after : Session) (ending : Ending (Except StoreError α)),
      session.run environment limit (.ask (.send statement) fun answer => .done (taken answer)) =
          (after, ending) ∧
        before.Single environment statement taken (· = .abandoned) after.machine.tables ending := by
  have ill : fate ≠ .answered → environment.Healthy → before.pool ≠ .open :=
    fun other healthy => absurd (well healthy) other
  cases fate with
  | answered =>
    obtain ⟨ending, ran, heard⟩ := run_reply taken sent
    have heard : ending = .finished
        (taken ((execute reached.machine.tables none statement).answer.mapError .refused)) ∨
          ending = .abandoned := heard
    refine ⟨_, ending, ran, ?_⟩
    change before.Single environment statement taken (· = .abandoned)
      (execute reached.machine.tables none statement).tables ending
    rw [tables] at heard ⊢
    exact .carriedOut accepted heard
  | refused report =>
    have same : (reached.failTransaction {}).machine.tables = before.tables := tables
    exact single_of_failed taken (ill Fate.noConfusion) same sent
  | disconnected =>
    have same : (reached.withConnection none).machine.tables = before.tables := tables
    exact single_of_failed taken (ill Fate.noConfusion) same sent
  | silent =>
    refine ⟨reached.withConnection none, .abandoned, by rw [run, sent]; rfl, ?_⟩
    rw [show (reached.withConnection none).machine.tables = before.tables from tables]
    exact .unsent rfl
  | crashed =>
    refine ⟨reached, .crashed, by rw [run, sent]; rfl, ?_⟩
    rw [tables]
    exact .disturbed (ill Fate.noConfusion) (Or.inl rfl)

/-- A statement on a new connection. -/
theorem Session.single_of_send [Collation] {session : Session} {before : Machine}
    (taken : Except DriverError (List Row) → Except StoreError α) (fresh : session.connection = some {})
    (tables : session.machine.tables = before.tables) :
    ∃ (after : Session) (ending : Ending (Except StoreError α)),
      session.run environment limit (.ask (.send statement) fun answer => .done (taken answer)) =
          (after, ending) ∧
        before.Single environment statement taken (· = .abandoned) after.machine.tables ending := by
  cases accepted : statement.refused? with
  | some report =>
    obtain ⟨ending, ran, heard⟩ := run_reply taken (send_unaccepted fresh accepted)
    exact ⟨_, ending, ran, tables ▸ .refused accepted heard⟩
  | none =>
    have reached : ((session.pass environment).log statement).machine.tables = before.tables := tables
    exact single_of_meet taken accepted reached (fun healthy => healthy _ _)
      (send_reached fresh accepted)

/-- Asking for a connection gives a new one, or fails if the database cannot be reached. -/
theorem Session.connect_open {session : Session} (available : session.machine.pool = .open) :
    session.connect environment = ((session.pass environment).withConnection (some {}), .ok ()) := by
  unfold connect
  dsimp only
  rw [show (session.pass environment).machine.pool = .open from available]

theorem Session.connect_not_open {session : Session} (unavailable : session.machine.pool ≠ .open) :
    ∃ cause, session.connect environment = (session.pass environment, .error cause) := by
  have same : (session.pass environment).machine.pool = session.machine.pool := rfl
  unfold connect
  dsimp only
  rw [same]
  cases state : session.machine.pool with
  | «open» => exact absurd state unavailable
  | closed => exact ⟨_, rfl⟩
  | unreachable => exact ⟨_, rfl⟩

/-- **Nothing else becomes of an operation of one statement.** -/
theorem Session.run_single [Collation] {session : Session} {before : Machine} {missing : StoreError}
    {read : Row → Except DriverError α} (tables : session.machine.tables = before.tables)
    (pool : session.machine.pool = before.pool) :
    ∃ (after : Session) (ending : Ending (Except StoreError α)),
      session.run environment limit (Operation.single statement missing read).run = (after, ending) ∧
        before.Single environment statement (Operation.taken missing read) (· = .abandoned)
          after.machine.tables ending := by
  rw [Operation.run_single, run]
  by_cases available : session.machine.pool = .open
  · rw [connect_open available]
    dsimp only
    split
    · exact single_of_send (Operation.taken missing read) rfl tables
    · refine ⟨_, .abandoned, rfl, ?_⟩
      rw [show ((session.pass environment).withConnection (some {})).machine.tables = before.tables
        from tables]
      exact .unsent rfl
  · obtain ⟨cause, failed⟩ : ∃ cause, session.connect environment = _ := connect_not_open available
    rw [failed]
    dsimp only
    have tables : (session.pass environment).machine.tables = before.tables := tables
    split
    · refine ⟨_, _, rfl, ?_⟩
      rw [tables]
      exact .disturbed (fun _ => pool ▸ available) (Or.inr ⟨cause, rfl⟩)
    · refine ⟨_, .abandoned, rfl, ?_⟩
      rw [tables]
      exact .unsent rfl

end Runs

/-! ### Actions -/

/-- An operation that is performed within a limit and one around it ends as it is run, unless it is cut
off. -/
theorem Machine.perform_within [Collation] (outer limit : Option Duration) (operation : Operation α)
    (machine : Machine) :
    ∃ bound : Option Duration,
      (machine.perform environment outer (operation.within limit)).1.tables =
          (Session.run environment bound operation.run ⟨machine, none, 0⟩).1.machine.tables ∧
        ((machine.perform environment outer (operation.within limit)).2 =
            (Session.run environment bound operation.run ⟨machine, none, 0⟩).2 ∨
          (Session.run environment bound operation.run ⟨machine, none, 0⟩).2 = .abandoned ∧
            (machine.perform environment outer (operation.within limit)).2.Cut) := by
  unfold Operation.within
  rw [perform_eq]
  refine ⟨_, Session.tables_close _, ?_⟩
  dsimp only
  generalize (Session.run environment _ operation.run ⟨machine, none, 0⟩).2 = ending
  cases ending with
  | finished value => exact Or.inl rfl
  | crashed => exact Or.inl rfl
  | abandoned =>
    refine Or.inr ⟨rfl, ?_⟩
    cases limit with
    | none => exact Or.inl rfl
    | some limit =>
      rw [Option.map_some, standIn]
      split
      · exact Or.inr ⟨limit, rfl⟩
      · exact Or.inl rfl

section Single

variable [Collation]
variable {machine : Machine} {operation : Operation α} {session : Session} {statement : Statement}
  {missing : StoreError} {read : Row → Except DriverError α}

/-- **Nothing else becomes of an operation that comes to one statement**, within any limits. -/
theorem Machine.perform_single (comes : ∀ bound,
      Session.run environment bound operation.run ⟨machine, none, 0⟩ =
        session.run environment bound (Operation.single statement missing read).run)
    (tables : session.machine.tables = machine.tables) (pool : session.machine.pool = machine.pool)
    (outer limit : Option Duration) :
    machine.Single environment statement (Operation.taken missing read) Ending.Cut
      (machine.perform environment outer (operation.within limit)).1.tables
      (machine.perform environment outer (operation.within limit)).2 := by
  obtain ⟨bound, same, ended⟩ : ∃ bound : Option Duration,
      (machine.perform environment outer (operation.within limit)).1.tables = _ ∧ _ :=
    perform_within outer limit operation machine
  obtain ⟨after, ending, ran, single⟩ := Session.run_single tables pool
  rw [comes, ran] at same ended
  rw [same]
  obtain ended | ⟨abandoned, cut⟩ := ended
  · rw [ended]
    exact single.mono Or.inl
  · obtain rfl : ending = .abandoned := abandoned
    exact single.of_abandoned cut

/-- In time it is not cut off. -/
theorem Machine.perform_single_of_inTime (comes : ∀ bound,
      Session.run environment bound operation.run ⟨machine, none, 0⟩ =
        session.run environment bound (Operation.single statement missing read).run)
    (tables : session.machine.tables = machine.tables) (pool : session.machine.pool = machine.pool)
    {outer limit : Option Duration} (healthy : environment.Healthy) (available : machine.pool = .open)
    (inTime : (operation.within limit).InTime environment outer machine) :
    ∃ after, machine.Single environment statement (Operation.taken missing read) (fun _ => False) after
      (machine.perform environment outer (operation.within limit)).2 := by
  have finished : (machine.perform environment outer (operation.within limit)).2 = _ :=
    perform_of_inTime healthy available inTime
  have alone := (run_solo healthy operation.run machine available).1
  obtain ⟨after, ending, ran, single⟩ := Session.run_single tables pool
  have ended : (Session.run environment none operation.run ⟨machine, none, 0⟩).2 = ending := by
    rw [comes, ran]
  rw [finished]
  obtain rfl : ending = _ := ended.symm.trans alone
  refine ⟨after.machine.tables, single.mono fun impossible => ?_⟩
  cases impossible

end Single

end Storefront
