/-
**How programs conduct themselves.**

As long as nothing fails, what a program holds follows from its calls (`Standing`): the turn to make an
order, a connection, a transaction on it.  `Program.Conducted` says that each call is made where it may be
(`Standing.after?`), that only allowed statements are sent, and that the first failure ends the program.

A program is walked through once, to show that it is conducted; everything else that is said of all its
calls follows.

Main statements:

* `Program.Conducted.bind`, `Operation.conducted_bind`: one program after another;
* `Program.Conducted.sends`, `Program.Conducted.failsAs`, `Program.Conducted.orderly`,
  `Program.Conducted.modest`, `Program.Conducted.yields`: what follows.
-/

import Storefront.Proofs.Program.Progress
import Storefront.Proofs.Program.Results
import Storefront.Proofs.Program.Transactions

namespace Storefront

variable {α β : Type} {allowed : Statement → Prop}

/-! ### Programs -/

/-- What a program holds, as long as nothing has failed. -/
structure Standing where
  /-- The turn to make an order. -/
  turn : Bool := false
  connected : Bool := false
  /-- A transaction on the connection. -/
  opened : Bool := false

/-- What a program holds after a call that has not failed, if it may make the call there.  It takes the turn
before anything else, it takes one connection, and it begins a transaction where none is open and ends one
where one is. -/
def Standing.after? (standing : Standing) : Call → Option Standing
  | .freshId | .readClock => some standing
  | .takeTurn =>
    if standing.turn || standing.connected then none else some { standing with turn := true }
  | .connect =>
    if standing.connected || standing.opened then none else some { standing with connected := true }
  | .send statement =>
    if standing.connected then
      (statement.query.opened? standing.opened).map fun opened => { standing with opened }
    else none

namespace Standing

variable {standing later : Standing}

/-- Who takes the turn has nothing. -/
theorem of_takeTurn (leads : standing.after? .takeTurn = some later) :
    standing.turn = false ∧ standing.connected = false ∧ later = { standing with turn := true } := by
  rw [after?] at leads
  split at leads
  · cases leads
  · next nothing =>
    obtain ⟨turn, connected⟩ : standing.turn = false ∧ standing.connected = false := by
      simpa using nothing
    exact ⟨turn, connected, (Option.some.inj leads).symm⟩

/-- Who takes a connection has none, and no transaction. -/
theorem of_connect (leads : standing.after? .connect = some later) :
    standing.connected = false ∧ standing.opened = false ∧
      later = { standing with connected := true } := by
  rw [after?] at leads
  split at leads
  · cases leads
  · next nothing =>
    obtain ⟨connected, opened⟩ : standing.connected = false ∧ standing.opened = false := by
      simpa using nothing
    exact ⟨connected, opened, (Option.some.inj leads).symm⟩

/-- A statement is sent on a connection, and only where its transaction allows it. -/
theorem of_send {statement : Statement} (leads : standing.after? (.send statement) = some later) :
    standing.connected = true ∧ ∃ opened, statement.query.opened? standing.opened = some opened ∧
      later = { standing with opened } := by
  rw [after?] at leads
  split at leads
  · next connected =>
    obtain ⟨opened, known, same⟩ := Option.map_eq_some_iff.mp leads
    exact ⟨connected, opened, known, same.symm⟩
  · cases leads

end Standing

/-- The program makes its calls where it may and sends allowed statements only.  The first call that fails
ends it with what `fail` makes of the failure, and any other result is as `post` says. -/
def Program.Conducted (allowed : Statement → Prop) (fail : DriverError → α)
    (post : Standing → α → Prop) : Program α → Standing → Prop
  | .done value, standing => post standing value
  | .ask call next, standing =>
    (∀ statement, call = .send statement → allowed statement) ∧
      ∃ later, standing.after? call = some later ∧ ∀ answer,
        (∀ cause, call.failure? answer = some cause → next answer = .done (fail cause)) ∧
          (call.failure? answer = none → Conducted allowed fail post (next answer) later)

namespace Program

variable {fail : DriverError → α} {post : Standing → α → Prop} {program : Program α}
  {standing : Standing}

/-- One program after another: what a failure of the first makes of the whole is what the second makes of
its result. -/
theorem Conducted.bind {whole : DriverError → β} {last : Standing → β → Prop} {next : α → Program β}
    (first : program.Conducted allowed fail post standing)
    (ended : ∀ cause, next (fail cause) = .done (whole cause))
    (rest : ∀ value later, post later value → (next value).Conducted allowed whole last later) :
    (program >>= next).Conducted allowed whole last standing := by
  induction program generalizing standing with
  | done value => exact rest value standing first
  | ask call goes ih =>
    obtain ⟨permitted, later, leads, answered⟩ := first
    refine ⟨permitted, later, leads, fun answer => ⟨fun cause failed => ?_, fun well => ?_⟩⟩
    · change (goes answer >>= next) = _
      rw [(answered answer).1 cause failed, done_bind, ended]
    · exact ih answer ((answered answer).2 well)

theorem Conducted.mono {weaker : Standing → α → Prop}
    (conducted : program.Conducted allowed fail post standing)
    (implies : ∀ later value, post later value → weaker later value) :
    program.Conducted allowed fail weaker standing := by
  induction program generalizing standing with
  | done value => exact implies standing value conducted
  | ask call next ih =>
    obtain ⟨permitted, later, leads, answered⟩ := conducted
    exact ⟨permitted, later, leads, fun answer =>
      ⟨(answered answer).1, fun well => ih answer ((answered answer).2 well)⟩⟩

/-- What holds of the program after every answer that is no failure, and of one that is done with a
failure, holds of it after every answer. -/
theorem of_answered (holds : Program α → Prop) {call : Call} {next : call.Answer → Program α}
    {later : Standing} {answer : call.Answer}
    (answered : (∀ cause, call.failure? answer = some cause → next answer = .done (fail cause)) ∧
      (call.failure? answer = none → (next answer).Conducted allowed fail post later))
    (ended : ∀ cause, holds (.done (fail cause)))
    (goes : (next answer).Conducted allowed fail post later → holds (next answer)) :
    holds (next answer) := by
  cases failed : call.failure? answer with
  | none => exact goes (answered.2 failed)
  | some cause => exact answered.1 cause failed ▸ ended cause

/-- Every statement that it sends is allowed. -/
theorem Conducted.sends (conducted : program.Conducted allowed fail post standing) :
    program.Sends allowed := by
  induction program generalizing standing with
  | done value => trivial
  | ask call next ih =>
    obtain ⟨permitted, later, _, answered⟩ := conducted
    exact ⟨permitted, fun answer =>
      of_answered (Sends allowed) (answered answer) (fun _ => trivial) (ih answer)⟩

/-- The first failure ends it. -/
theorem Conducted.failsAs (conducted : program.Conducted allowed fail post standing) :
    program.FailsAs fail := by
  induction program generalizing standing with
  | done value => trivial
  | ask call next ih =>
    obtain ⟨_, later, _, answered⟩ := conducted
    exact fun answer => ⟨(answered answer).1,
      of_answered (FailsAs fail) (answered answer) (fun _ => trivial) (ih answer)⟩

/-- It minds its transactions. -/
theorem Conducted.orderly (conducted : program.Conducted allowed fail post standing) :
    program.Orderly standing.opened := by
  induction program generalizing standing with
  | done value => trivial
  | ask call next ih =>
    obtain ⟨_, later, leads, answered⟩ := conducted
    have goes : ∀ answer, (next answer).Orderly later.opened := fun answer =>
      of_answered (Orderly · later.opened) (answered answer) (fun _ => trivial) (ih answer)
    cases call with
    | freshId => cases leads; exact goes
    | readClock => cases leads; exact goes
    | takeTurn =>
      obtain ⟨_, _, rfl⟩ := Standing.of_takeTurn leads
      exact goes ()
    | connect =>
      obtain ⟨_, closed, rfl⟩ := Standing.of_connect leads
      exact ⟨closed, closed ▸ goes (.ok ())⟩
    | send statement =>
      obtain ⟨_, opened, known, rfl⟩ := Standing.of_send leads
      exact ⟨opened, known, fun rows => goes (.ok rows)⟩

/-- It asks for nothing that it may have to wait for in a circle. -/
theorem Conducted.modest (conducted : program.Conducted allowed fail post standing) :
    program.Modest ⟨standing.connected, standing.turn⟩ := by
  induction program generalizing standing with
  | done value => trivial
  | ask call next ih =>
    obtain ⟨_, later, leads, answered⟩ := conducted
    have goes : ∀ answer, (next answer).Modest ⟨later.connected, later.turn⟩ := fun answer =>
      of_answered (Modest · ⟨later.connected, later.turn⟩) (answered answer) (fun _ => trivial)
        (ih answer)
    -- whatever is still held after a failure, the program is at its end
    have failed : ∀ answer cause has, call.failure? answer = some cause → (next answer).Modest has := by
      intro answer cause has failure
      rw [(answered answer).1 cause failure]
      trivial
    cases call with
    | freshId => cases leads; exact goes
    | readClock => cases leads; exact goes
    | takeTurn =>
      obtain ⟨turn, connected, rfl⟩ := Standing.of_takeTurn leads
      exact ⟨connected, turn, goes ()⟩
    | connect =>
      obtain ⟨connected, _, rfl⟩ := Standing.of_connect leads
      exact ⟨connected, goes (.ok ()), fun cause => failed (.error cause) cause _ rfl⟩
    | send statement =>
      obtain ⟨connected, _, _, rfl⟩ := Standing.of_send leads
      exact ⟨connected, fun rows => goes (.ok rows),
        fun cause connection => failed (.error cause) cause _ rfl⟩

/-- Every result is a failure, or one that has been promised. -/
theorem Conducted.yields {reading : Timestamp → Prop} {weaker : α → Prop}
    (conducted : program.Conducted allowed fail post standing) (fails : ∀ cause, weaker (fail cause))
    (promised : ∀ later value, post later value → weaker value) : program.Yields reading weaker := by
  induction program generalizing standing with
  | done value => exact promised standing value conducted
  | ask call next ih =>
    obtain ⟨_, later, _, answered⟩ := conducted
    exact fun answer _ => of_answered (Yields reading weaker) (answered answer) fails (ih answer)

end Program

/-! ### Operations -/

/-- What an operation can fail with: a failure of the database as `fail` sorts it, that something does not
exist, or that its limit has passed. -/
inductive StoreError.Arises (fail : DriverError → StoreError) : StoreError → Prop
  | failed (cause : DriverError) : Arises fail (fail cause)
  | missing (entity key : String) : Arises fail (.notFound entity key)
  | overdue (limit : Duration) : Arises fail (.timeout limit)

/-- The error that a result is, if it is one. -/
def StoreError.of? : Except StoreError α → Option StoreError
  | .ok _ => none
  | .error cause => some cause

/-- The operation is conducted and, if it succeeds, leads from the one standing to the other. -/
def Operation.Conducted (allowed : Statement → Prop) (fail : DriverError → StoreError)
    (operation : Operation α) (before after : Standing) : Prop :=
  operation.run.Conducted allowed (fun cause => .error (fail cause)) (fun standing result =>
    match result with
    | .ok _ => standing = after
    | .error cause => cause.Arises fail) before

namespace Operation

variable {fail : DriverError → StoreError} {before middle after : Standing} {turn opened : Bool}
  {query : Query} {values : List Cell}

/-- One operation after another. -/
theorem conducted_bind {operation : Operation α} {next : α → Operation β}
    (first : operation.Conducted allowed fail before middle)
    (rest : ∀ value, (next value).Conducted allowed fail middle after) :
    (operation >>= next).Conducted allowed fail before after := by
  refine Program.Conducted.bind first (fun _ => rfl) fun result later kept => ?_
  cases result with
  | ok value =>
    obtain rfl : later = middle := kept
    exact rest value
  | error cause => exact kept

theorem conducted_pure (value : α) : (pure value : Operation α).Conducted allowed fail before before :=
  rfl

theorem conducted_throw {cause : StoreError} (arises : cause.Arises fail) :
    (throw cause : Operation α).Conducted allowed fail before after :=
  arises

theorem conducted_known (result : Except DriverError α) :
    (known fail result).Conducted allowed fail before before := by
  cases result with
  | ok value => exact conducted_pure value
  | error cause => exact .failed cause

theorem conducted_firstRow {missing : StoreError} (arises : missing.Arises fail)
    (read : Row → Except DriverError α) (rows : List Row) :
    (firstRow fail missing read rows).Conducted allowed fail before before := by
  cases rows with
  | nil => exact conducted_throw arises
  | cons row rest => exact conducted_known (read row)

theorem conducted_freshId : freshId.Conducted allowed fail before before :=
  ⟨nofun, before, rfl, fun _ => ⟨nofun, fun _ => rfl⟩⟩

theorem conducted_readClock : readClock.Conducted allowed fail before before :=
  ⟨nofun, before, rfl, fun _ => ⟨nofun, fun _ => rfl⟩⟩

theorem conducted_takeTurn : takeTurn.Conducted allowed fail {} { turn := true } :=
  ⟨nofun, { turn := true }, rfl, fun _ => ⟨nofun, fun _ => rfl⟩⟩

theorem conducted_connect :
    (connect fail).Conducted allowed fail { turn } { turn, connected := true } := by
  refine ⟨nofun, { turn, connected := true }, ?_, fun answer => ?_⟩
  · cases turn <;> rfl
  · cases answer with
    | ok given => exact ⟨nofun, fun _ => rfl⟩
    | error cause => exact ⟨fun found failed => by cases failed; rfl, nofun⟩

/-- A statement and what is made of its rows: rows that cannot be read end the operation. -/
theorem conducted_send {later : Bool} {next : List Row → Operation β}
    (permitted : allowed ⟨query, values⟩) (leads : query.opened? opened = some later)
    (unread : ∀ rows cause, query.unread? rows = some cause →
      (next rows).run = .done (.error (fail cause)))
    (rest : ∀ rows, (next rows).Conducted allowed fail ⟨turn, true, later⟩ after) :
    (send fail query values >>= next).Conducted allowed fail ⟨turn, true, opened⟩ after := by
  refine ⟨?_, ⟨turn, true, later⟩, ?_, fun answer => ?_⟩
  · rintro _ ⟨⟩
    exact permitted
  · exact congrArg (Option.map _) leads
  · cases answer with
    | ok rows => exact ⟨unread rows, fun _ => rest rows⟩
    | error cause => exact ⟨fun found failed => by cases failed; rfl, nofun⟩

/-- A statement whose rows nobody reads. -/
theorem conducted_send_unread {later : Bool} {next : List Row → Operation β}
    (permitted : allowed ⟨query, values⟩) (leads : query.opened? opened = some later)
    (plain : ∀ rows, query.unread? rows = none)
    (rest : ∀ rows, (next rows).Conducted allowed fail ⟨turn, true, later⟩ after) :
    (send fail query values >>= next).Conducted allowed fail ⟨turn, true, opened⟩ after :=
  conducted_send permitted leads (fun rows cause failed => by rw [plain] at failed; cases failed) rest

theorem conducted_beginSnapshot (begin : allowed ⟨.begin, []⟩) (snapshot : allowed ⟨.snapshot, []⟩) :
    (beginSnapshot fail).Conducted allowed fail { turn } ⟨turn, true, true⟩ :=
  conducted_bind conducted_connect fun _ =>
    conducted_send_unread begin rfl (fun _ => rfl) fun _ =>
      conducted_send_unread snapshot rfl (fun _ => rfl) fun _ => conducted_pure ()

theorem conducted_commit (permitted : allowed ⟨.commit, []⟩) :
    (commit fail).Conducted allowed fail ⟨turn, true, true⟩ ⟨turn, true, false⟩ :=
  conducted_send_unread permitted rfl (fun _ => rfl) fun _ => conducted_pure ()

end Operation

/-! ### Actions -/

/-- What an action has to wait for is conducted, started with nothing, and what stands in for it is as
`post` says. -/
def Action.Conducted (allowed : Statement → Prop) (fail : DriverError → α) (post : α → Prop) :
    Action α → Prop
  | .answered _ => True
  | .waiting bound program =>
    (∀ own ∈ bound, post own.2) ∧ program.Conducted allowed fail (fun _ value => post value) {}

namespace Action

variable {fail : DriverError → α} {post : α → Prop} {action : Action α}

/-- An action whose answer is changed is conducted as it was. -/
theorem Conducted.map {changed : β → Prop} (conducted : action.Conducted allowed fail post) (f : α → β)
    (implies : ∀ value, post value → changed (f value)) :
    (f <$> action).Conducted allowed (fun cause => f (fail cause)) changed := by
  cases action with
  | answered value => trivial
  | waiting bound program =>
    refine ⟨fun own given => ?_, conducted.2.bind (fun _ => rfl) fun value _ kept => implies value kept⟩
    obtain ⟨⟨limit, instead⟩, set, rfl⟩ := Option.map_eq_some_iff.mp given
    exact implies instead (conducted.1 _ set)

theorem Conducted.sends (conducted : action.Conducted allowed fail post) :
    action.program.Sends allowed := by
  cases action with
  | answered value => trivial
  | waiting bound program => exact conducted.2.sends

theorem Conducted.failsAs (conducted : action.Conducted allowed fail post) :
    action.program.FailsAs fail := by
  cases action with
  | answered value => trivial
  | waiting bound program => exact conducted.2.failsAs

theorem Conducted.tidy (conducted : action.Conducted allowed fail post) : action.program.Tidy := by
  cases action with
  | answered value => trivial
  | waiting bound program => exact conducted.2.orderly

theorem Conducted.frugal (conducted : action.Conducted allowed fail post) : action.program.Frugal := by
  cases action with
  | answered value => trivial
  | waiting bound program => exact conducted.2.modest

end Action

/-- An operation that starts with nothing is conducted as an action, whatever its limit. -/
theorem Operation.Conducted.within {fail : DriverError → StoreError} {operation : Operation α}
    {after : Standing} (conducted : operation.Conducted allowed fail {} after) (limit : Option Duration) :
    (operation.within limit).Conducted allowed (fun cause => .error (fail cause))
      fun result => ∀ cause ∈ StoreError.of? result, cause.Arises fail := by
  refine ⟨fun own given => ?_, Program.Conducted.mono conducted fun later result kept cause failed => ?_⟩
  · obtain ⟨duration, _, rfl⟩ := Option.map_eq_some_iff.mp given
    rintro _ ⟨⟩
    exact .overdue duration
  · cases result <;> cases failed
    exact kept

end Storefront
