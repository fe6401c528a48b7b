/-
**What calls leave behind that time out.**

One statement decides whether a call keeps what it makes: the row of an account or of an item is kept at
once when it is added, and an order when its transaction is committed.  A call that times out before this
statement reaches the database, or while it is not carried out, leaves the tables as they were.  But if the
statement has been carried out and only its answer comes too late, the answer that the call has timed out is
given all the same, and everything is kept.

Main statements:

* `OrderStore.add_decided`: when the transaction of an order is committed, the order is returned at once;
* `StoreCall.tables_of_timeout`: when a call that times out leaves the tables as they were;
* `StoreCall.kept_in_spite_of_timeout`: it does not always.
-/

import Storefront.Proofs.Program.Overdue
import Storefront.Proofs.Program.Transactions
import Storefront.Proofs.Store.Writes

namespace Storefront

/-- The result is that the limit has passed. -/
def TimedOut {α : Type} (result : Except StoreError α) : Prop :=
  ∃ duration, result = .error (.timeout duration)

/-- Is the answer that the call has timed out? -/
def StoreAnswer.TimedOut : StoreAnswer → Prop
  | .account result => Storefront.TimedOut result
  | .item result => Storefront.TimedOut result
  | .items result => Storefront.TimedOut result
  | .order result => Storefront.TimedOut result
  | .orders result => Storefront.TimedOut result

/-- Does a call keep what it makes as soon as the statement is carried out? -/
def StoreCall.Decides : StoreCall → Statement → Prop
  | .createAccount _, statement => ∃ account : Account, statement = .insert .accounts [account.cells] true
  | .createItem _, statement => ∃ item : Item, statement = .insert .items [item.cells] true
  | .createOrder _, statement => statement = ⟨.commit, []⟩
  | _, _ => False

/-! ### Single rows -/

/-- No transaction is open. -/
def View.Outside (view : View) : Prop := ∀ connection ∈ view.connection, connection.transaction = none

/-- A program that begins no transaction is always outside of one. -/
theorem View.preserved_outside [Collation] {cut : Cut} :
    View.Preserved (fun statement => statement.query.opened? false = some false) cut Outside := by
  refine ⟨fun _ _ outside _ => outside, fun _ outside => outside, ?_, ?_⟩
  · rintro view _ _ ⟨⟩
    rfl
  · rintro ⟨tables, held, turn, added, seen⟩ statement answer rows connection outside _ plain exchange _
    cases exchange with
    | unconnected => exact nofun
    | @carriedOut own rows added =>
      rintro _ ⟨⟩
      have idle : own.transaction = none := outside own rfl
      rw [idle]
      exact execute_transaction_none plain
    | @refused own report =>
      rintro _ ⟨⟩
      have idle : own.transaction = none := outside own rfl
      exact congrArg (Option.map _) idle
    | broken => exact nofun

variable {environment : Environment} {limit outer : Option Duration} {machine after : Machine}
  {answer : StoreAnswer}

/-- An error of the database is no timeout. -/
theorem StoreError.ofDriver_ne_timeout (cause : DriverError) (duration : Duration) :
    ofDriver cause ≠ .timeout duration := by
  unfold ofDriver
  cases cause.violatedUnique? <;> exact nofun

namespace Operation

variable {α : Type} {table : Table} {cells : List Cell} {read : Row → Except DriverError α} {view : View}

/-- A row that has been added has not led to a timeout. -/
theorem RowPost.added_of_timeout {duration : Duration}
    (kept : RowPost table cells read (.error (.timeout duration)) view) : view.added = .empty := by
  obtain ⟨_, same⟩ | ⟨nothing, _⟩ := kept
  · cases found : read (table.kept cells) with
    | ok value =>
      rw [found] at same
      cases same
    | error cause =>
      rw [found] at same
      exact absurd (Except.error.inj same).symm (StoreError.ofDriver_ne_timeout cause duration)
  · exact nothing

end Operation

/-- A row that the server accepts outside of a transaction is kept at once. -/
theorem execute_row_ne [Collation] {tables : Tables} {table : Table} {cells : List Cell}
    {rows : List Row}
    (succeeded : (execute tables none (.insert table [cells] true)).answer = .ok rows) :
    (execute tables none (.insert table [cells] true)).tables ≠ tables := by
  cases checked : checkRows tables table [table.kept cells] with
  | error report =>
    have refused : execute tables none (.insert table [cells] true) = .refuse report tables none :=
      execute_insert_error rfl checked
    rw [refused] at succeeded
    cases succeeded
  | ok done =>
    have added : execute tables none (.insert table [cells] true) =
        .added table [table.kept cells] [table.kept cells] tables none := execute_insert_ok rfl checked
    rw [added]
    intro same
    have nothing : Tables.only [table.kept cells] table = .empty := Tables.append_eq_self_iff.mp same
    cases table <;> cases nothing

/-! ### Orders -/

/-- When the transaction is committed the order is returned at once. -/
theorem OrderStore.add_decided (input : NewOrder) :
    (add input).run.DecidedBy (· = ⟨.commit, []⟩) fun result => ∃ order, result = .ok order := by
  have makes : ∀ id wishes,
      (makeLines id wishes).run.Sends fun statement => ¬ statement = ⟨.commit, []⟩ :=
    fun id wishes => (@makeLines_confined _ (fun _ _ => True) id wishes (fun _ => True)
      fun _ _ => trivial).sends
  have batch : ∀ lines, (addLines lines).run.Sends fun statement => ¬ statement = ⟨.commit, []⟩ :=
    fun lines => (@addLines_confined _ (fun _ _ => True) lines (fun _ => True) (fun _ => nofun)
      (fun _ => trivial) fun _ => trivial).sends
  refine Operation.decidedBy_bind Operation.sends_takeTurn fun _ => ?_
  refine Operation.decidedBy_bind Operation.sends_readClock fun now => ?_
  refine Operation.decidedBy_bind Operation.sends_freshId fun id => ?_
  refine Operation.decidedBy_bind Operation.sends_connect fun _ => ?_
  refine Operation.decidedBy_bind (Operation.sends_send nofun) fun _ => ?_
  refine Operation.decidedBy_bind (Operation.sends_send nofun) fun found => ?_
  refine Operation.decidedBy_bind Operation.sends_known fun known => ?_
  cases known with
  | true =>
    refine Operation.decidedBy_bind (Operation.sends_send nofun) fun _ => ?_
    refine Operation.decidedBy_bind (makes _ _) fun lines => ?_
    refine Operation.decidedBy_bind (batch lines) fun _ => ?_
    exact .last (fun rows => ⟨_, rfl, _, rfl⟩) fun cause => .done _
  | false =>
    exact Operation.decidedBy_bind (Operation.sends_send nofun) fun _ => .done _

/-- Where nothing has been added and nothing is overdue. -/
theorem Event.Punctual.same_iff {events : List Event} {found left : Tables} {view : View}
    {decides : Statement → Prop} (punctual : Punctual events) (tables : left = found ++ view.added)
    (nothing : view.added = .empty) :
    left = found ↔ ∀ event ∈ events, event.outcome = .overdue → ¬ decides event.statement := by
  rw [tables, nothing, Tables.append_empty]
  exact iff_of_true rfl fun event member late => absurd late (punctual event member)

/-- An environment in which one wait takes two seconds, and every other no time. -/
def Environment.slowAt (wait : Nat) : Environment :=
  { Environment.sample with delay := fun count => if count = wait then 2000000000 else 0 }

namespace StoreCall

/-- A call that keeps one row leaves the tables as they were when it times out, unless the statement that
adds the row is overdue. -/
theorem same_iff_of_row [Collation] {α : Type} {call : StoreCall} {operation : Operation α}
    {table : Table} {cells : Uuid → Timestamp → List Cell} {read : Row → Except DriverError α}
    {reply : Except StoreError α → StoreAnswer}
    (keeps : operation.run.Keeps
      (fun statement view => ∃ id now, Cut.oneRow table (cells id now) statement view)
      (fun result view => ∃ id now, Operation.RowPost table (cells id now) read result view)
      { tables := machine.tables })
    (adds : call.program.Sends call.Decides)
    (comes : call.action limit = reply <$> operation.within limit)
    (decides : ∀ statement, call.Decides statement → ∃ cells, statement = .insert table [cells] true)
    (late : ∀ result, (reply result).TimedOut → TimedOut result)
    (performed : machine.perform environment outer (call.action limit) = (after, .finished answer))
    (timedOut : answer.TimedOut) :
    after.tables = machine.tables ↔
      ∀ event ∈ machine.events environment outer (call.action limit),
        event.outcome = .overdue → ¬ call.Decides event.statement := by
  have sends : (call.action limit).program.Sends call.Decides := by
    rw [program_action]
    exact adds
  have promised : (call.action limit).program.Keeps .untouched
      (fun answer view => answer.TimedOut → view.added = .empty) { tables := machine.tables } := by
    rw [comes]
    refine Action.keeps_program_map.mpr (keeps.mono ?_ ?_)
    · rintro statement view ⟨id, now, kept⟩
      exact Cut.untouched_of_oneRow kept
    · rintro result view ⟨id, now, kept⟩ timedOut
      obtain ⟨duration, rfl⟩ := late result timedOut
      exact kept.added_of_timeout
  have outside := promised.preserved (sends.mono fun statement decided => by
    obtain ⟨cells, rfl⟩ := decides statement decided
    rfl) View.preserved_outside nofun
  obtain ⟨ending, halted, same⟩ := @Machine.perform_halted _ environment outer _ _ (fun _ => False)
    (fun _ => True) _ (call.action limit) machine
    (Program.Sends.decidedBy ((Program.sends_all _).mono fun _ _ => id)) outside
  rw [performed] at halted same
  cases halted with
  | finished view tables kept punctual =>
    cases same _ rfl
    exact punctual.same_iff tables (kept.2 timedOut)
  | dropped view tables kept unfinished punctual => exact punctual.same_iff tables (kept.2 rfl)
  | overdue statement member only view later connection rows standing grown held succeeded tables =>
    have decided : call.Decides statement := Machine.events_sends sends member rfl
    refine iff_of_false ?_ fun others => others _ member rfl decided
    obtain ⟨cells, rfl⟩ := decides statement decided
    -- No transaction is open that could be taken back, and nothing has been added before.
    rw [standing.2 rfl, Tables.append_empty] at grown
    rw [standing.1 connection held, grown] at succeeded tables
    rw [tables]
    exact execute_row_ne succeeded

/-- A call that makes an order leaves the tables as they were when it times out, unless its `COMMIT` is
overdue. -/
theorem same_iff_of_order [Collation] {input : NewOrder}
    (performed : machine.perform environment outer ((createOrder (some input)).action limit) =
      (after, .finished answer)) (timedOut : answer.TimedOut) :
    after.tables = machine.tables ↔
      ∀ event ∈ machine.events environment outer ((createOrder (some input)).action limit),
        event.outcome = .overdue → ¬ (createOrder (some input)).Decides event.statement := by
  have decided : ((createOrder (some input)).action limit).program.DecidedBy (· = ⟨.commit, []⟩)
      fun answer => ∃ order, answer = .order (.ok order) := by
    refine Action.decidedBy_program_map (OrderStore.add_decided input) ?_
    rintro _ ⟨order, rfl⟩
    exact ⟨order, rfl⟩
  have keeps := program_keeps (createOrder (some input)) machine.tables
  rw [← program_action limit] at keeps
  obtain ⟨ending, halted, same⟩ : ∃ ending, _ ∧ ∀ value, ending = .finished value →
    (machine.perform environment outer _).2 = ending := Machine.perform_halted decided keeps
  rw [performed] at halted same
  cases halted with
  | finished view tables kept punctual =>
    cases same _ rfl
    have nothing : view.added = .empty := by
      cases answer with
      | order result =>
        obtain ⟨duration, rfl⟩ := timedOut
        exact kept.2
      | _ => cases kept
    exact punctual.same_iff tables nothing
  | dropped view tables kept unfinished punctual => exact punctual.same_iff tables kept.1
  | overdue statement member only view later connection rows standing grown held succeeded tables added kept
      concluded =>
    by_cases commit : statement = ⟨.commit, []⟩
    · refine iff_of_false ?_ fun others => others _ member rfl commit
      obtain ⟨_, ⟨order, rfl⟩, _, _, whole, _⟩ := concluded commit
      rw [added, whole]
      intro nothing
      cases Tables.append_eq_self_iff.mp nothing
    · rw [added, kept.2 commit, Tables.append_empty]
      exact iff_of_true rfl fun event member late => only event member late ▸ commit

/-- **A call that times out leaves the tables as they were unless the statement that decides it is
overdue**: carried out, and its answer not heard in time.  What it keeps then is what it would have kept,
one account, one item or one order with its lines. -/
theorem tables_of_timeout [Collation] (call : StoreCall)
    (performed : machine.perform environment outer (call.action limit) = (after, .finished answer))
    (timedOut : answer.TimedOut) :
    (after.tables = machine.tables ↔
      ∀ event ∈ machine.events environment outer (call.action limit),
        event.outcome = .overdue → ¬ call.Decides event.statement) ∧
      ∃ rows, call.MayAdd rows ∧ after.tables = machine.tables ++ rows := by
  have adds : (call.action limit).program.Adds call.MayAdd := program_action limit call ▸ call.program_adds
  obtain ⟨rows, added, grown⟩ := @Machine.perform_adds _ _ environment outer _ _ adds
    ⟨Tables.within_empty, Or.inl rfl⟩ machine
  rw [performed] at grown
  refine ⟨?_, rows, added, grown⟩
  have reads : (∀ table, ¬ call.Writes table) → after.tables = machine.tables := fun writesNothing => by
    rw [grown, added.eq_empty writesNothing, Tables.append_empty]
  cases call with
  | createAccount input =>
    cases input with
    | none =>
      cases performed
      obtain ⟨_, impossible⟩ := timedOut
      cases impossible
    | some input =>
      refine same_iff_of_row (AccountStore.add_registers input rfl) ?_ rfl ?_ (fun _ => id) performed
        timedOut
      · refine (createAccount (some input)).program_asks.mono fun statement asks => ?_
        cases asks
        exact ⟨_, rfl⟩
      · rintro _ ⟨account, rfl⟩
        exact ⟨account.cells, rfl⟩
  | createItem input =>
    cases input with
    | none =>
      cases performed
      obtain ⟨_, impossible⟩ := timedOut
      cases impossible
    | some input =>
      refine same_iff_of_row (ItemStore.add_registers input rfl) ?_ rfl ?_ (fun _ => id) performed timedOut
      · refine (createItem (some input)).program_asks.mono fun statement asks => ?_
        cases asks
        exact ⟨_, rfl⟩
      · rintro _ ⟨item, rfl⟩
        exact ⟨item.cells, rfl⟩
  | createOrder input =>
    cases input with
    | none =>
      cases performed
      obtain ⟨_, impossible⟩ := timedOut
      cases impossible
    | some input => exact same_iff_of_order performed timedOut
  | _ => exact iff_of_true (reads fun _ => id) fun _ _ _ => id

/-- A call that has waited in vain for a connection leaves nothing. -/
theorem tables_of_timeout_unconnected :
    (Machine.perform (.slowAt 0) none
        ((createAccount (some ⟨"ada@example.org", none, none, none, .female⟩)).action
          (some (.ofSeconds 1))) {}).2 = .finished (.account (.error (.timeout (.ofSeconds 1)))) ∧
      (Machine.perform (.slowAt 0) none
        ((createAccount (some ⟨"ada@example.org", none, none, none, .female⟩)).action
          (some (.ofSeconds 1))) {}).1.tables = .empty := by
  have still := (@tables_of_timeout (.slowAt 0) (some (.ofSeconds 1)) none {} _ _ _
    (createAccount (some ⟨"ada@example.org", none, none, none, .female⟩)) rfl ⟨.ofSeconds 1, rfl⟩).1
  exact ⟨rfl, still.mpr (List.forall_mem_nil _)⟩

/-- An account, an item or an order is kept in spite of the answer that the call has timed out, if this
answer comes before the one to the statement that adds the row or commits the transaction. -/
theorem kept_in_spite_of_timeout :
    ((Machine.perform (.slowAt 1) none
          ((createAccount (some ⟨"ada@example.org", none, none, none, .female⟩)).action
            (some (.ofSeconds 1))) {}).2 = .finished (.account (.error (.timeout (.ofSeconds 1)))) ∧
        (Machine.perform (.slowAt 1) none
          ((createAccount (some ⟨"ada@example.org", none, none, none, .female⟩)).action
            (some (.ofSeconds 1))) {}).1.tables ≠ .empty) ∧
      ((Machine.perform (.slowAt 1) none
          ((createItem (some ⟨"Tea", none, ⟨0⟩⟩)).action (some (.ofSeconds 1))) {}).2 =
            .finished (.item (.error (.timeout (.ofSeconds 1)))) ∧
        (Machine.perform (.slowAt 1) none
          ((createItem (some ⟨"Tea", none, ⟨0⟩⟩)).action (some (.ofSeconds 1))) {}).1.tables ≠
            .empty) ∧
      (Machine.perform (.slowAt 6) none
          ((createOrder (some .sample)).action (some (.ofSeconds 1))) { tables := .sample }).2 =
            .finished (.order (.error (.timeout (.ofSeconds 1)))) ∧
        (Machine.perform (.slowAt 6) none
          ((createOrder (some .sample)).action (some (.ofSeconds 1))) { tables := .sample }).1.tables ≠
            .sample := by
  refine ⟨⟨rfl, fun same => ?_⟩, ⟨rfl, fun same => ?_⟩, rfl, fun same => ?_⟩
  · cases congrArg Tables.accounts same
  · cases congrArg Tables.items same
  · cases congrArg Tables.orders same

end StoreCall

end Storefront
