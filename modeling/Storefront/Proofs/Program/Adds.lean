/-
**What programs add.**

Two bounds on the rows that a program adds to the tables, wherever it stands or is dropped.  It adds
rows only to tables for which it has a statement that adds rows (`Program.Keeps.within`).  And a
program that can go on only while it has added nothing adds one account, one item or one order at
most (`Program.Keeps.once`).

Main statements:

* `execute_within`: a statement adds rows to its own table only, at once or when it is committed;
* `Program.Keeps.within`, `Program.Keeps.once`: the two bounds;
* `Machine.perform_adds`, `System.Run.adds`: what is promised of the rows that a program adds holds of
  them, whether it is run alone or beside others.
-/

import Storefront.Proofs.Program.Alone
import Storefront.Proofs.Program.Together

namespace Storefront

/-! ### Rows in some tables only -/

/-- The rows are in these tables only. -/
def Tables.Within (into : Table → Prop) (rows : Tables) : Prop :=
  ∀ table, ¬ into table → rows.rows table = []

namespace Tables

variable {into : Table → Prop} {first second : Tables}

theorem within_empty : empty.Within into := fun table _ => rows_empty table

theorem Within.append (inside : first.Within into) (inside' : second.Within into) :
    (first ++ second).Within into := by
  intro table outside
  rw [rows_append, inside table outside, inside' table outside, List.append_nil]

theorem within_only {rows : List Row} {table : Table} (inside : into table) :
    (only rows table).Within into := by
  intro other outside
  refine rows_only_ne ?_ rows
  rintro rfl
  exact outside inside

/-- Tables with rows nowhere are empty. -/
theorem eq_empty_of_within (nowhere : ∀ table, ¬ into table) (inside : first.Within into) :
    first = .empty := by
  have accounts : first.accounts = [] := inside .accounts (nowhere _)
  have items : first.items = [] := inside .items (nowhere _)
  have orders : first.orders = [] := inside .orders (nowhere _)
  have orderItems : first.orderItems = [] := inside .orderItems (nowhere _)
  rcases first with ⟨_, _, _, _⟩
  cases accounts
  cases items
  cases orders
  cases orderItems
  rfl

end Tables

/-- The table that a query adds rows to. -/
def Query.target? : Query → Option Table
  | .insert table _ _ => some table
  | _ => none

/-- The statement adds rows to these tables only. -/
def Statement.Into (into : Table → Prop) (statement : Statement) : Prop :=
  ∀ table ∈ statement.query.target?, into table

/-- What waits in the transaction of a connection is in these tables only. -/
def Connection.Within (into : Table → Prop) (connection : Connection) : Prop :=
  ∀ transaction ∈ connection.transaction, transaction.written.Within into

/-- The rows that an effect has added, and those that wait in its transaction, are in these tables
only. -/
def Effect.Within (into : Table → Prop) (tables : Tables) (effect : Effect) : Prop :=
  (∀ rows, effect.tables = tables ++ rows → rows.Within into) ∧
    ∀ transaction ∈ effect.transaction, transaction.written.Within into

section Effects

variable {into : Table → Prop} {tables : Tables} {transaction : Option Transaction}
  {statement : Statement}

/-- An effect that leaves the tables as they are. -/
theorem Effect.within_of_same {effect : Effect} (same : effect.tables = tables)
    (waits : ∀ transaction ∈ effect.transaction, transaction.written.Within into) :
    effect.Within into tables := by
  refine ⟨fun rows added => ?_, waits⟩
  rw [Tables.append_eq_self_iff.mp (added.symm.trans same)]
  exact Tables.within_empty

theorem Transaction.written_looked (transaction : Transaction) (tables : Tables) :
    (transaction.looked tables).written = transaction.written := by
  unfold looked
  split <;> rfl

/-- A statement adds rows to its own table only, at once or when it is committed. -/
theorem execute_within [Collation] (target : statement.Into into)
    (waiting : ∀ current ∈ transaction, current.written.Within into) :
    (execute tables transaction statement).Within into tables := by
  have refuse : ∀ report, (Effect.refuse report tables transaction).Within into tables := by
    intro report
    refine Effect.within_of_same rfl fun after member => ?_
    obtain ⟨current, inside, rfl⟩ := Option.map_eq_some_iff.mp member
    exact waiting current inside
  have found : ∀ rows, (Effect.found rows tables transaction).Within into tables := by
    intro rows
    refine Effect.within_of_same rfl fun after member => ?_
    obtain ⟨current, inside, rfl⟩ := Option.map_eq_some_iff.mp member
    rw [Transaction.written_looked]
    exact waiting current inside
  unfold execute
  split
  · split
    · exact Effect.within_of_same rfl nofun
    · exact Effect.within_of_same rfl nofun
    · exact refuse .aborted
  · unfold perform
    cases query : statement.query with
    | begin =>
      refine Effect.within_of_same rfl ?_
      rintro _ ⟨⟩
      exact Tables.within_empty
    | snapshot =>
      refine Effect.within_of_same rfl fun after member => ?_
      obtain ⟨current, inside, rfl⟩ := Option.map_eq_some_iff.mp member
      exact waiting current inside
    | commit =>
      refine ⟨fun rows added => ?_, nofun⟩
      rw [← Tables.append_left_cancel added]
      cases transaction with
      | none => exact Tables.within_empty
      | some current => exact waiting current rfl
    | rollback => exact Effect.within_of_same rfl nofun
    | ping => exact Effect.within_of_same rfl waiting
    | count table filter => exact found _
    | «exists» table filter => exact found _
    | select table filter order window => exact found _
    | insert table groups returning =>
      have own : into table := target table (by rw [query]; rfl)
      dsimp only
      split
      · exact refuse _
      · cases transaction with
        | none =>
          refine ⟨fun rows added => ?_, nofun⟩
          rw [← Tables.append_left_cancel added]
          exact Tables.within_only own
        | some current =>
          refine Effect.within_of_same rfl ?_
          rintro _ ⟨⟩
          exact (waiting current rfl).append (Tables.within_only own)

/-- So does an exchange. -/
theorem Exchange.within [Collation] {connection after : Option Connection}
    {answer : Except DriverError (List Row)} {rows : Tables}
    (exchange : Exchange statement tables connection answer rows after)
    (target : statement.Into into) (waiting : ∀ current ∈ connection, current.Within into) :
    rows.Within into ∧ ∀ current ∈ after, current.Within into := by
  cases exchange with
  | unconnected => exact ⟨Tables.within_empty, nofun⟩
  | @carriedOut connection rows added =>
    have effect : (execute tables connection.transaction statement).Within into tables :=
      execute_within target (waiting connection rfl)
    obtain ⟨adds, waits⟩ := effect
    refine ⟨adds rows added, ?_⟩
    rintro _ ⟨⟩
    exact waits
  | @refused connection report =>
    refine ⟨Tables.within_empty, ?_⟩
    rintro _ ⟨⟩ after member
    obtain ⟨current, inside, rfl⟩ := Option.map_eq_some_iff.mp member
    exact waiting connection rfl current inside
  | broken => exact ⟨Tables.within_empty, nofun⟩

end Effects

/-! ### The bounds -/

variable [Collation]

section Bounds

variable {α : Type} {cut : Cut} {post : α → View → Prop} {view : View} {program : Program α}

/-- A program adds rows only to tables for which it has a statement that adds rows. -/
theorem Program.Keeps.within {into : Table → Prop} (keeps : program.Keeps cut post view)
    (sends : program.Sends (Statement.Into into))
    (waiting : ∀ connection ∈ view.connection, connection.Within into)
    (added : view.added.Within into) :
    program.Keeps (fun statement view => view.added.Within into ∧ cut statement view)
      (fun value view => view.added.Within into ∧ post value view) view := by
  have preserved : View.Preserved (Statement.Into into) cut fun view =>
      view.added.Within into ∧ ∀ connection ∈ view.connection, connection.Within into :=
    { others := fun _ _ holds _ => holds
      turn := fun _ holds => holds
      connected := fun view holds => ⟨holds.1, by rintro _ ⟨⟩; exact nofun⟩
      exchanged := fun holds _ target exchange _ =>
        have ⟨adds, waits⟩ := exchange.within target holds.2
        ⟨holds.1.append adds, waits⟩ }
  exact (keeps.preserved sends preserved ⟨added, waiting⟩).mono
    (fun _ _ kept => ⟨kept.1.1, kept.2⟩) fun _ _ kept => ⟨kept.1.1, kept.2⟩

/-- The rows are one account, one item or one order, or there are none. -/
def Tables.Once (rows : Tables) : Prop := rows = .empty ∨ ∃ tables, Addition tables rows

/-- A program that can go on only while it has added nothing adds one thing at most. -/
theorem Program.Keeps.once (keeps : program.Keeps cut post view)
    (standing : ∀ view, cut none view → view.added = .empty) (added : view.added.Once) :
    program.Keeps (fun statement view => view.added.Once ∧ cut statement view)
      (fun value view => view.added.Once ∧ post value view) view := by
  refine keeps.preserved program.sends_all { others := ?_, turn := ?_, connected := ?_, exchanged := ?_ }
    added
  · exact fun _ _ holds _ => holds
  · exact fun _ holds => holds
  · exact fun _ holds => holds
  · intro view statement answer rows connection _ waits _ _ lawful
    rw [View.exchanged, standing view waits, Tables.empty_append]
    exact lawful.imp_right fun rule => ⟨_, rule.1⟩

end Bounds

/-! ### Runs -/

/-- The program promises this of the rows that it adds. -/
def Program.Adds {α : Type} (promise : Tables → Prop) (program : Program α) : Prop :=
  ∀ tables : Tables, program.Keeps (fun _ view => promise view.added) (fun _ view => promise view.added)
    { tables := tables }

theorem Program.Adds.mono {α : Type} {promise weaker : Tables → Prop} {program : Program α}
    (adds : program.Adds promise) (implies : ∀ rows, promise rows → weaker rows) :
    program.Adds weaker :=
  fun tables => (adds tables).mono (fun _ _ kept => implies _ kept) fun _ _ kept => implies _ kept

/-- What is promised of the rows that an action adds holds of them when it is performed. -/
theorem Machine.perform_adds {α : Type} {environment : Environment} {outer : Option Duration}
    {promise : Tables → Prop} {action : Action α} (adds : action.program.Adds promise)
    (nothing : promise .empty) (machine : Machine) :
    ∃ rows, promise rows ∧
      (machine.perform environment outer action).1.tables = machine.tables ++ rows := by
  cases action with
  | answered value => exact ⟨.empty, nothing, (Tables.append_empty _).symm⟩
  | waiting bound program =>
    have ended : machine.Ended environment _ _ (bound.map Prod.snd) machine.tables
        (machine.perform environment outer (.waiting bound program)).1
        (machine.perform environment outer (.waiting bound program)).2 :=
      perform_ended (adds machine.tables)
    generalize machine.perform environment outer (.waiting bound program) = outcome at ended ⊢
    obtain ⟨after, ending⟩ := outcome
    cases ended with
    | finished view tables grown kept => exact ⟨view.added, kept, tables.trans grown⟩
    | dropped view tables grown kept unfinished => exact ⟨view.added, kept, tables.trans grown⟩
    | unheard view tables grown statement kept carried unfinished =>
      exact ⟨view.added, kept, tables.trans grown⟩

/-- It holds of them also when programs are run beside each other. -/
theorem System.Run.adds {ι ρ : Type} [DecidableEq ι] {programs : ι → Program ρ} {tables : Tables}
    {size : Nat} {now : System ι ρ} {promise : ι → Tables → Prop}
    (run : (start programs tables size).Run now) (adds : ∀ who, (programs who).Adds (promise who))
    (nothing : ∀ who, promise who .empty) (who : ι) : promise who (now.addedBy who) := by
  obtain ⟨view, follows⟩ := (run.sane adds).follows who
  rw [← follows.added]
  have kept := follows.keeps
  cases standing : now.stages who with
  | ready program =>
    rw [standing] at kept
    rw [kept.1]
    exact nothing who
  | running program connection turn =>
    rw [standing] at kept
    obtain ⟨_, _, goes⟩ := kept
    cases program with
    | done result => exact goes
    | ask call next => exact (goes view.tables view.permits_refl).standing
  | ended result connection =>
    rw [standing] at kept
    exact kept.2
  | dropped unheard connection =>
    rw [standing] at kept
    exact kept

end Storefront
