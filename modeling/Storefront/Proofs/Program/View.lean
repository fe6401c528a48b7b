/-
**What a program sees.**

A `View` is the part of the world that a program depends on: the tables as they are committed, its
connection, and whether it has the turn to make an order.  It also remembers what the program has
added to the tables, and in which states its statements found them.  Other programs change the
tables under it, but only as `View.Permits` says.

* `Exchange` lists all that can become of a statement: the server carries it out, refuses it, or the
  connection breaks; `Session.send` does nothing else (`Session.send_cases`).
* `Statement.Lawful` is the rule that every statement of every program obeys: it adds nothing, or
  rows that the server has let in, and rows of orders only with the turn and only when a transaction
  is committed.
-/

import Storefront.Proofs.Database.Addition

namespace Storefront

/-! ### Statements -/

namespace Connection

/-- The connection after a statement has been refused. -/
def failed (connection : Connection) : Connection :=
  { connection with
    transaction := connection.transaction.map fun transaction => { transaction with failed := true } }

/-- The connection after the answer to a statement. -/
def after (connection : Connection) (statement : Statement) (effect : Effect) : Connection where
  transaction := effect.transaction
  guarded := match effect.answer with
    | .ok _ => Session.guardedAfter statement.query true connection.guarded
    | .error _ => connection.guarded

end Connection

/-- What can become of a statement on a connection: an answer, the rows that it adds to the tables,
and the connection afterwards. -/
inductive Exchange [Collation] (statement : Statement) (tables : Tables) :
    Option Connection → Except DriverError (List Row) → Tables → Option Connection → Prop
  | unconnected : Exchange statement tables none (.error brokenConnection) .empty none
  | carriedOut {connection : Connection} {rows : Tables}
      (added : (execute tables connection.transaction statement).tables = tables ++ rows) :
      Exchange statement tables (some connection)
        ((execute tables connection.transaction statement).answer.mapError .refused) rows
        (some (connection.after statement (execute tables connection.transaction statement)))
  | refused {connection : Connection} (report : Report) :
      Exchange statement tables (some connection) (.error (.refused report)) .empty
        (some connection.failed)
  | broken {connection : Connection} :
      Exchange statement tables (some connection) (.error brokenConnection) .empty none

/-- The statement has been carried out since. -/
def Machine.CarriedOut (environment : Environment) (before after : Machine)
    (statement : Statement) :
    Prop :=
  ∃ sent, before.sent <+: sent ∧ sent ++ [statement] <+: after.sent ∧
    environment.fate sent statement = .answered

/-- All that sending a statement can lead to. -/
inductive Session.Sent [Collation] (environment : Environment) (session : Session)
    (statement : Statement) :
    Session × Reply (Except DriverError (List Row)) → Prop
  | answered {after : Session} {answer : Except DriverError (List Row)} {rows : Tables}
      (exchange : Exchange statement session.machine.tables session.connection answer rows
        after.connection)
      (tables : after.machine.tables = session.machine.tables ++ rows)
      (logged : session.machine.sent <+: after.machine.sent) :
      Sent environment session statement (after, .answer answer)
  | undone {after : Session} {reply : Reply (Except DriverError (List Row))}
      (tables : after.machine.tables = session.machine.tables)
      (silent : ∀ answer, reply ≠ .answer answer) : Sent environment session statement (after, reply)
  | unheard {after : Session} {answer : Except DriverError (List Row)} {rows : Tables}
      {connection : Option Connection}
      (exchange : Exchange statement session.machine.tables session.connection answer rows connection)
      (tables : after.machine.tables = session.machine.tables ++ rows)
      (carried : Machine.CarriedOut environment session.machine after.machine statement) :
      Sent environment session statement (after, .late)

namespace Session

variable {environment : Environment} {limit : Option Duration} {statement : Statement}

/-- A reply that says nothing of the tables. -/
theorem sent_of_same [Collation] {session after : Session} {answer : Except DriverError (List Row)}
    (exchange : Exchange statement session.machine.tables session.connection answer .empty
      after.connection)
    (tables : after.machine.tables = session.machine.tables)
    (logged : session.machine.sent <+: after.machine.sent) (decided : Session) :
    session.Sent environment statement (after, decided.reply limit answer) := by
  unfold reply
  split
  · exact .answered exchange (by rw [tables, Tables.append_empty]) logged
  · exact .undone tables (fun _ => nofun)

/-- Sending a statement leads to nothing else. -/
theorem send_cases [Collation] (session : Session) :
    session.Sent environment statement (session.send environment limit statement) := by
  unfold send
  dsimp only
  split
  · next free =>
    have exchange : Exchange statement session.machine.tables session.connection
        (.error brokenConnection) .empty session.connection := by
      rw [show session.connection = none from free]
      exact .unconnected
    apply sent_of_same
    · exact exchange
    · rfl
    · exact List.prefix_refl _
  · next connection held =>
    have held : session.connection = some connection := held
    split
    · next report _ =>
      have exchange : Exchange statement session.machine.tables session.connection
          (.error (.refused report)) .empty (some connection.failed) := by
        rw [held]
        exact .refused report
      apply sent_of_same
      · exact exchange
      · rfl
      · exact List.prefix_refl _
    · split
      · next answered =>
        obtain ⟨rows, added⟩ := execute_tables session.machine.tables connection.transaction statement
        have exchange : Exchange statement session.machine.tables session.connection
            ((execute session.machine.tables connection.transaction statement).answer.mapError
              .refused) rows
            (some (connection.after statement
              (execute session.machine.tables connection.transaction statement))) := by
          rw [held]
          exact .carriedOut added
        unfold reply
        split
        · next punctual =>
          have guard : ((session.pass environment).log statement).inTime limit = true := punctual
          refine .answered ?_ added (List.prefix_append _ _)
          unfold carryOut
          dsimp only
          rw [guard]
          exact exchange
        · exact .unheard exchange added ⟨_, List.prefix_refl _, List.prefix_refl _, answered⟩
      · next report _ =>
        have exchange : Exchange statement session.machine.tables session.connection
            (.error (.refused report)) .empty (some connection.failed) := by
          rw [held]
          exact .refused report
        apply sent_of_same
        · exact exchange
        · rfl
        · exact List.prefix_append _ _
      · have exchange : Exchange statement session.machine.tables session.connection
            (.error brokenConnection) .empty none := by
          rw [held]
          exact .broken
        apply sent_of_same
        · exact exchange
        · rfl
        · exact List.prefix_append _ _
      · exact .undone rfl (fun _ => nofun)
      · exact .undone rfl (fun _ => nofun)

/-- Asking for a connection gives one or fails. -/
theorem connect_cases {session after : Session} {answer : Except DriverError Unit}
    (connected : session.connect environment = (after, answer)) :
    after.machine.tables = session.machine.tables ∧ after.machine.sent = session.machine.sent ∧
      (after.connection = some {} ∧ answer = .ok () ∨
        after.connection = session.connection ∧ ∃ cause, answer = .error cause) := by
  unfold connect at connected
  dsimp only at connected
  split at connected
  all_goals
    cases connected
    refine ⟨rfl, rfl, ?_⟩
  · exact Or.inl ⟨rfl, rfl⟩
  · exact Or.inr ⟨rfl, _, rfl⟩
  · exact Or.inr ⟨rfl, _, rfl⟩

end Session

/-! ### Views -/

/-- What a program sees, and what it has done. -/
structure View where
  tables : Tables
  connection : Option Connection := none
  /-- Has it the turn to make an order? -/
  turn : Bool := false
  /-- The rows that it has added to the tables. -/
  added : Tables := .empty
  /-- The tables as its statements have found them. -/
  seen : List Tables := []

namespace View

/-- The view when the tables have become others. -/
def on (view : View) (tables : Tables) : View := { view with tables := tables }

/-- The view after a statement. -/
def exchanged (view : View) (rows : Tables) (connection : Option Connection) : View where
  tables := view.tables ++ rows
  connection := connection
  turn := view.turn
  added := view.added ++ rows
  seen := view.seen ++ [view.tables]

@[simp]
theorem exchanged_empty (view : View) (connection : Option Connection) :
    view.exchanged .empty connection =
      { view with connection := connection, seen := view.seen ++ [view.tables] } := by
  simp [exchanged]

/-- What others may make of the tables: they may grow, but nobody else makes orders while a program
has the turn. -/
def Permits (view : View) (tables : Tables) : Prop :=
  view.tables.Grown tables ∧
    (view.turn = true → tables.orders = view.tables.orders ∧ tables.orderItems = view.tables.orderItems)

theorem permits_refl (view : View) : view.Permits view.tables :=
  ⟨Relation.ReflTransGen.refl, fun _ => ⟨rfl, rfl⟩⟩

theorem Permits.trans {view : View} {first second : Tables} (before : view.Permits first)
    (after : (view.on first).Permits second) : view.Permits second := by
  refine ⟨Relation.ReflTransGen.trans before.1 after.1, fun turn => ?_⟩
  obtain ⟨orders, lines⟩ := before.2 turn
  obtain ⟨orders', lines'⟩ := after.2 turn
  exact ⟨orders'.trans orders, lines'.trans lines⟩

end View

/-- The rule for what a statement adds to the tables. -/
def Statement.Lawful (statement : Statement) (view : View) (rows : Tables) : Prop :=
  rows = .empty ∨ Addition view.tables rows ∧
    (rows.orders = [] ∧ rows.orderItems = [] ∨ view.turn = true ∧ statement.query = .commit)

theorem Statement.Lawful.grown {statement : Statement} {view : View} {rows : Tables}
    (lawful : statement.Lawful view rows) : view.tables.Grown (view.tables ++ rows) := by
  rcases lawful with rfl | ⟨addition, _⟩
  · rw [Tables.append_empty]
    exact Relation.ReflTransGen.refl
  · exact Tables.Grown.add Relation.ReflTransGen.refl addition

end Storefront
