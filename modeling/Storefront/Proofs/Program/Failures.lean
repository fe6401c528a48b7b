/-
**What programs make of failures.**

A call fails with an error of the database (`Call.failure?`): there is no connection, the statement is
answered with an error, or the rows that answer it cannot be read.  `Program.FailsAs fail program` says
that the first failure ends the program, with the result that `fail` makes of the error.

So the texts of errors reach nobody, if `fail` does not show them: in environments that differ in such
texts only (`Environment.Alike`) a program does the same and comes to the same.

Main statements:

* `Program.FailsAs.bind`: one program after another;
* `Session.run_of_failure`: a call that fails in a run decides what the run comes to;
* `Session.run_alike`: runs in environments that differ in texts of errors only are the same.
-/

import Storefront.Account.Store
import Storefront.Order.Store
import Storefront.Proofs.Program.Alone
import Storefront.Proofs.Program.Steps

namespace Storefront

variable {α β : Type}

/-! ### Failures of calls -/

/-- The error in an answer, if it is one. -/
def DriverError.of? : Except DriverError α → Option DriverError
  | .ok _ => none
  | .error cause => some cause

/-- What is wrong with rows that should hold records of a table. -/
def Table.unread? : Table → List Row → Option DriverError
  | .accounts, rows => DriverError.of? (Row.readAll Account.ofRow rows)
  | .items, rows => DriverError.of? (Row.readAll Item.ofRow rows)
  | .orders, rows => DriverError.of? (Row.readAll Order.ofRow rows)
  | .orderItems, rows => DriverError.of? (Row.readAll OrderLine.ofRow rows)

/-- What is wrong with the rows that answer a query.  A record with a certain value in a column is
looked for in the first row only, and a row that is added has to come back if that is asked for. -/
def Query.unread? (query : Query) (rows : List Row) : Option DriverError :=
  match query with
  | .count _ _ => DriverError.of? (Row.readFirst rows Row.integer?)
  | .exists _ _ => DriverError.of? (Row.readFirst rows Row.truth?)
  | .select table (.equals _ _) _ none => table.unread? (rows.take 1)
  | .select table _ _ _ => table.unread? rows
  | .insert table _ true => if rows.isEmpty then some .rowNotFound else table.unread? (rows.take 1)
  | _ => none

/-- The failure that an answer to a call is, if it is one. -/
def Call.failure? : (call : Call) → call.Answer → Option DriverError
  | .connect, .error cause => some cause
  | .send _, .error cause => some cause
  | .send statement, .ok rows => statement.query.unread? rows
  | _, _ => none

/-! ### Programs -/

/-- The first call that fails ends the program, with this result. -/
def Program.FailsAs (fail : DriverError → α) : Program α → Prop
  | .done _ => True
  | .ask call next => ∀ answer, (∀ cause, call.failure? answer = some cause →
      next answer = .done (fail cause)) ∧ FailsAs fail (next answer)

/-- One program after another: what a failure of the first makes of the whole is what the second makes of
its result. -/
theorem Program.FailsAs.bind {fail : DriverError → α} {whole : DriverError → β} {program : Program α}
    {next : α → Program β} (first : program.FailsAs fail)
    (ended : ∀ cause, next (fail cause) = .done (whole cause))
    (rest : ∀ value, (next value).FailsAs whole) :
    (program >>= next).FailsAs whole := by
  induction program with
  | done value => exact rest value
  | ask call goes ih =>
    intro answer
    obtain ⟨failing, later⟩ := first answer
    refine ⟨fun cause failed => ?_, ih answer later⟩
    change (goes answer >>= next) = _
    rw [failing cause failed, done_bind, ended]

/-- A changed result of a failure is the changed result. -/
theorem Action.failsAs_program_map {fail : DriverError → α} {f : α → β} {action : Action α}
    (fails : action.program.FailsAs fail) :
    (f <$> action).program.FailsAs fun cause => f (fail cause) := by
  cases action with
  | answered value => trivial
  | waiting own program => exact Program.FailsAs.bind fails (fun _ => rfl) fun _ => trivial

namespace Operation

variable {fail : DriverError → StoreError}

/-- An operation that has ended with an error is not gone on with. -/
theorem run_bind_of_failed {operation : Operation α} {next : α → Operation β} {cause : StoreError}
    (ended : operation.run = .done (.error cause)) :
    (operation >>= next).run = .done (.error cause) := by
  change (operation.run >>= _) = _
  rw [ended]
  rfl

theorem run_known_of_failed {result : Except DriverError α} {cause : DriverError}
    (failed : DriverError.of? result = some cause) :
    (known fail result).run = .done (.error (fail cause)) := by
  cases result with
  | ok value => cases failed
  | error found => cases failed; rfl

/-- A first row that cannot be read ends the operation. -/
theorem run_firstRow_of_failed {missing : StoreError} {read : Row → Except DriverError α}
    {rows : List Row} {cause : DriverError}
    (failed : DriverError.of? (Row.readAll read (rows.take 1)) = some cause) :
    (firstRow fail missing read rows).run = .done (.error (fail cause)) := by
  cases rows with
  | nil => cases failed
  | cons row rest =>
    rw [List.take_succ_cons, List.take_zero, Row.readAll] at failed
    rw [firstRow]
    cases found : read row with
    | ok value => rw [found] at failed; cases failed
    | error other => rw [found] at failed; cases failed; rfl

/-- A row that does not come back, or cannot be read, ends the operation that has added it. -/
theorem run_firstRow_of_lost {read : Row → Except DriverError α} {rows : List Row} {cause : DriverError}
    (failed : (if rows.isEmpty then some .rowNotFound
      else DriverError.of? (Row.readAll read (rows.take 1))) = some cause) :
    (firstRow fail (fail .rowNotFound) read rows).run = .done (.error (fail cause)) := by
  cases rows with
  | nil => cases failed; rfl
  | cons row rest => exact run_firstRow_of_failed failed

end Operation

/-! ### Runs -/

/-- **A call that fails in a run decides** what the run comes to. -/
theorem Session.run_of_failure [Collation] {environment : Environment} {limit : Option Duration}
    {fail : DriverError → α} {program : Program α} (fails : program.FailsAs fail) {session : Session}
    {moment : Moment} (met : moment ∈ session.moments environment limit program)
    {answer : moment.call.Answer} (heard : moment.reply = .answer answer) {cause : DriverError}
    (failed : moment.call.failure? answer = some cause) :
    (session.run environment limit program).2 = .finished (fail cause) := by
  induction program generalizing session with
  | done value => cases met
  | ask call next ih =>
    rw [run_ask]
    rw [moments] at met
    obtain rfl | later := List.mem_cons.mp met
    · dsimp only at heard failed answer
      rw [heard, proceed, (fails answer).1 cause failed]
      rfl
    · cases reply : (session.step environment limit call).2 with
      | answer given => rw [reply] at later; exact ih given (fails given).2 later
      | late => rw [reply] at later; cases later
      | crashed => rw [reply] at later; cases later

/-- A call that fails while an action is performed decides what that comes to. -/
theorem Machine.perform_of_failure [Collation] {environment : Environment} {outer : Option Duration}
    {fail : DriverError → α} {action : Action α} (fails : action.program.FailsAs fail) {machine : Machine}
    {moment : Moment} (met : moment ∈ machine.moments environment outer action)
    {answer : moment.call.Answer} (heard : moment.reply = .answer answer) {cause : DriverError}
    (failed : moment.call.failure? answer = some cause) :
    (machine.perform environment outer action).2 = .finished (fail cause) := by
  cases action with
  | answered value => cases met
  | waiting own program =>
    have ran : (Session.run environment (bound own outer) program ⟨machine, none, 0⟩).2 = _ :=
      Session.run_of_failure fails met heard failed
    rw [perform_eq, ran]
    rfl

/-! ### Texts of errors -/

/-- A report without its text. -/
def Report.bare (report : Report) : Report := { report with message := "" }

/-- An error without the texts in it. -/
def DriverError.bare : DriverError → DriverError
  | .lostConnection _ => .lostConnection ""
  | .unreadableColumn column _ => .unreadableColumn column ""
  | .protocol _ => .protocol ""
  | .refused report => .refused report.bare
  | cause => cause

/-- What becomes of a statement, without the text of an error. -/
def Fate.bare : Fate → Fate
  | .refused report => .refused report.bare
  | fate => fate

/-- The name of a violated constraint is no text. -/
theorem DriverError.violatedUnique?_bare (cause : DriverError) :
    cause.bare.violatedUnique? = cause.violatedUnique? := by
  cases cause <;> rfl

/-- Fates that are alike are the same, or two errors that differ in their texts only. -/
theorem Fate.eq_or_refused {first second : Fate} (alike : first.bare = second.bare) :
    first = second ∨ ∃ report other : Report, first = .refused report ∧ second = .refused other ∧
      report.bare = other.bare := by
  cases first with
  | refused report =>
    cases second with
    | refused other => exact Or.inr ⟨report, other, rfl, rfl, Fate.refused.inj alike⟩
    | _ => cases alike
  | _ =>
    cases second with
    | refused other => cases alike
    | _ => exact Or.inl alike

/-- The environments differ in the texts of errors only, as long as this many identifiers have been
given out already. -/
structure Environment.Alike (given : Nat) (first second : Environment) : Prop where
  id : ∀ count, given ≤ count → first.id count = second.id count
  clock : first.clock = second.clock
  delay : first.delay = second.delay
  fate : ∀ sent statement, (first.fate sent statement).bare = (second.fate sent statement).bare

theorem Environment.Alike.mono {given more : Nat} {first second : Environment}
    (alike : Environment.Alike given first second) (further : given ≤ more) :
    Environment.Alike more first second :=
  { alike with id := fun count beyond => alike.id count (Nat.le_trans further beyond) }

/-- Two replies are the same, or two failures that differ in their texts only. -/
inductive Reply.Alike (call : Call) : Reply call.Answer → Reply call.Answer → Prop
  | same (reply : Reply call.Answer) : Alike call reply reply
  | failed {first second : call.Answer} {cause other : DriverError}
      (fails : call.failure? first = some cause) (fails' : call.failure? second = some other)
      (texts : cause.bare = other.bare) : Alike call (.answer first) (.answer second)

section Alike

variable {first second : Environment} {limit : Option Duration}

theorem Session.pass_alike (delay : first.delay = second.delay) (session : Session) :
    session.pass first = session.pass second := by
  rw [pass, pass, delay]

/-- A statement whose fates are alike leads to the same session and to replies that are alike. -/
theorem Session.send_alike [Collation] {session : Session}
    (alike : first.Alike session.machine.ids second) (statement : Statement) :
    (session.send first limit statement).1 = (session.send second limit statement).1 ∧
      Reply.Alike (.send statement) (session.send first limit statement).2
        (session.send second limit statement).2 := by
  have fates := alike.fate session.machine.sent statement
  unfold send
  dsimp only
  rw [pass_alike alike.delay]
  cases (session.pass second).connection with
  | none => exact ⟨rfl, .same _⟩
  | some connection =>
    dsimp only
    cases statement.refused? with
    | some report => exact ⟨rfl, .same _⟩
    | none =>
      dsimp only
      obtain same | ⟨report, other, fate, fate', texts⟩ := Fate.eq_or_refused fates
      · rw [same]
        exact ⟨rfl, .same _⟩
      · rw [fate, fate']
        refine ⟨rfl, ?_⟩
        dsimp only
        unfold reply
        split
        · have told : (DriverError.refused report).bare = (DriverError.refused other).bare :=
            congrArg DriverError.refused texts
          exact .failed rfl rfl told
        · exact .same _

theorem Session.ids_connect (environment : Environment) (session : Session) :
    (session.connect environment).1.machine.ids = session.machine.ids := by
  unfold connect
  dsimp only
  split <;> rfl

variable [Collation]

theorem Session.ids_send (environment : Environment) (limit : Option Duration) (session : Session)
    (statement : Statement) :
    (session.send environment limit statement).1.machine.ids = session.machine.ids := by
  unfold send
  dsimp only
  split
  · rfl
  · split
    · rfl
    · split <;> rfl

/-- No identifier is taken back. -/
theorem Session.ids_step (environment : Environment) (limit : Option Duration) (session : Session)
    (call : Call) : session.machine.ids ≤ (session.step environment limit call).1.machine.ids := by
  cases call with
  | freshId => exact Nat.le_succ _
  | readClock => exact Nat.le_refl _
  | takeTurn =>
    rw [step]
    dsimp only
    split <;> exact Nat.le_refl _
  | connect => exact Nat.le_of_eq (ids_connect environment session).symm
  | send statement => exact Nat.le_of_eq (ids_send environment limit session statement).symm

/-- Steps in environments that are alike lead to the same session and to replies that are alike. -/
theorem Session.step_alike {session : Session} (alike : first.Alike session.machine.ids second)
    (call : Call) :
    (session.step first limit call).1 = (session.step second limit call).1 ∧
      Reply.Alike call (session.step first limit call).2 (session.step second limit call).2 := by
  cases call with
  | freshId =>
    rw [step, step, alike.id _ (Nat.le_refl _)]
    exact ⟨rfl, .same _⟩
  | readClock =>
    rw [step, step, alike.clock]
    exact ⟨rfl, .same _⟩
  | takeTurn =>
    rw [step, step, pass_alike alike.delay]
    exact ⟨rfl, .same _⟩
  | connect =>
    rw [step, step, connect, connect, pass_alike alike.delay]
    exact ⟨rfl, .same _⟩
  | send statement => exact send_alike alike statement

/-- **Runs in environments that differ in texts of errors only are the same**, if results of failures do
not show these texts. -/
theorem Session.run_alike {fail : DriverError → α} {program : Program α} (fails : program.FailsAs fail)
    (hides : ∀ cause other : DriverError, cause.bare = other.bare → fail cause = fail other)
    {session : Session} (alike : first.Alike session.machine.ids second) :
    session.run first limit program = session.run second limit program := by
  induction program generalizing session with
  | done value => rfl
  | ask call next ih =>
    obtain ⟨after, replies⟩ : _ ∧ Reply.Alike call (session.step first limit call).2 _ :=
      step_alike alike call
    rw [run_ask, run_ask]
    have later := alike.mono (ids_step first limit session call)
    rw [after] at later ⊢
    generalize (session.step first limit call).2 = reply at replies ⊢
    generalize (session.step second limit call).2 = reply' at replies ⊢
    cases replies with
    | same reply =>
      cases reply with
      | answer answer => exact ih answer (fails answer).2 later
      | late => rfl
      | crashed => rfl
    | failed fails' fails'' texts =>
      rw [proceed, proceed, (fails _).1 _ fails', (fails _).1 _ fails'', hides _ _ texts]
      rfl

/-- Actions performed in environments that differ in texts of errors only come to the same. -/
theorem Machine.perform_alike {outer : Option Duration} {fail : DriverError → α} {action : Action α}
    (fails : action.program.FailsAs fail)
    (hides : ∀ cause other : DriverError, cause.bare = other.bare → fail cause = fail other)
    {machine : Machine} (alike : first.Alike machine.ids second) :
    machine.perform first outer action = machine.perform second outer action := by
  cases action with
  | answered value => rfl
  | waiting own program =>
    have same : Session.run first (bound own outer) program ⟨machine, none, 0⟩ =
        Session.run second (bound own outer) program ⟨machine, none, 0⟩ :=
      Session.run_alike fails hides alike
    rw [perform_eq, perform_eq, same]

end Alike

end Storefront
