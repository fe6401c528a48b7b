/-
**Schedules.**

A schedule says which program of a system moves next, and which identifier or reading of the clock
it gets if it asks for one.  `System.play?` lets the programs move in this order, undisturbed, as
far as turns and connections are free.

Main statement: `play?_run` — what a schedule leads to is reached by a run.
-/

import Storefront.Proofs.Program.System

namespace Storefront

/-- The rows that tables have got since. -/
def Tables.since (later earlier : Tables) : Tables where
  accounts := later.accounts.drop earlier.accounts.length
  items := later.items.drop earlier.items.length
  orders := later.orders.drop earlier.orders.length
  orderItems := later.orderItems.drop earlier.orderItems.length

theorem Tables.since_append (earlier rows : Tables) : (earlier ++ rows).since earlier = rows := by
  simp [since, append_def]

variable [Collation]

/-- The answer to a statement that the server carries out, the rows that it adds, and the connection
afterwards. -/
def Connection.carryOut (tables : Tables) (connection : Connection) (statement : Statement) :
    Except DriverError (List Row) × Tables × Connection :=
  let effect := execute tables connection.transaction statement
  (effect.answer.mapError .refused, effect.tables.since tables, connection.after statement effect)

theorem Connection.exchange_carryOut (tables : Tables) (connection : Connection)
    (statement : Statement) :
    Exchange statement tables (some connection) (connection.carryOut tables statement).1
      (connection.carryOut tables statement).2.1 (some (connection.carryOut tables statement).2.2) := by
  obtain ⟨rows, added⟩ := execute_tables tables connection.transaction statement
  refine .carriedOut ?_
  unfold carryOut
  dsimp only
  rw [added, Tables.since_append]

/-- One turn of a schedule: who moves, and a number for the identifier or the reading of the
clock. -/
structure Beat (ι : Type) where
  who : ι
  seed : Nat

namespace System

variable {ι ρ : Type} [DecidableEq ι]

/-- Lets a program move, if it can. -/
def next? (system : System ι ρ) (beat : Beat ι) : Option (System ι ρ) :=
  match system.stages beat.who with
  | .ready program => some (system.moved beat.who (.running program none false) [])
  | .running (.ask .freshId next) connection turn =>
    some (system.moved beat.who (.running (next (.numbered beat.seed)) connection turn) [])
  | .running (.ask .readClock next) connection turn =>
    some (system.moved beat.who (.running (next (.ofClock beat.seed)) connection turn) [])
  | .running (.ask .takeTurn next) connection _ =>
    if system.turnTaken then none else
      some (system.moved beat.who (.running (next ()) connection true) [])
  | .running (.ask .connect next) _ turn =>
    if system.free = 0 then none else
      some (system.moved beat.who (.running (next (.ok ())) (some {}) turn) [])
  | .running (.ask (.send statement) next) (some connection) turn =>
    let (answer, rows, after) := connection.carryOut system.tables statement
    some (system.moved beat.who (.running (next answer) (some after) turn) [⟨statement, rows⟩])
  | .running (.done result) connection _ => some (system.moved beat.who (.ended result connection) [])
  | .ended result (some connection) =>
    some (system.moved beat.who (.ended result none) connection.closing)
  | .dropped statement (some connection) =>
    some (system.moved beat.who (.dropped statement none) connection.closing)
  | _ => none

/-- Lets programs move in the order of a schedule. -/
def play? (system : System ι ρ) : List (Beat ι) → Option (System ι ρ)
  | [] => some system
  | beat :: rest =>
    match system.next? beat with
    | some after => play? after rest
    | none => none

theorem next?_step {system after : System ι ρ} {beat : Beat ι}
    (moved : system.next? beat = some after) :
    system.Step after := by
  have step : ∀ {stage : Stage ρ} {deeds : List Deed},
      Stage.Moves system.tables system.turnTaken system.free (system.stages beat.who) stage deeds →
        system.Step (system.moved beat.who stage deeds) := fun moves => ⟨beat.who, _, _, moves, rfl⟩
  unfold next? at moved
  split at moved
  · next ready =>
    cases moved
    exact step (ready ▸ .begins)
  · next asks =>
    cases moved
    exact step (asks ▸ .freshId _)
  · next asks =>
    cases moved
    exact step (asks ▸ .readClock _)
  · next asks =>
    split at moved
    · cases moved
    · next free =>
      cases moved
      exact step (asks ▸ .takeTurn (eq_false_of_ne_true free))
  · next asks =>
    split at moved
    · cases moved
    · next free =>
      cases moved
      exact step (asks ▸ .connect (Nat.pos_of_ne_zero free))
  · next statement _ connection _ sends =>
    cases moved
    exact step (sends ▸ .answered (connection.exchange_carryOut system.tables statement))
  · next done =>
    cases moved
    exact step (done ▸ .ends)
  · next ended =>
    cases moved
    exact step (ended ▸ .closesEnded)
  · next dropped =>
    cases moved
    exact step (dropped ▸ .closesDropped)
  · cases moved

/-- What a schedule leads to is reached by a run. -/
theorem play?_run {system after : System ι ρ} {beats : List (Beat ι)}
    (played : system.play? beats = some after) :
    system.Run after := by
  induction beats generalizing system with
  | nil =>
    cases played
    exact Relation.ReflTransGen.refl
  | cons beat rest ih =>
    unfold play? at played
    cases moved : system.next? beat with
    | none =>
      rw [moved] at played
      cases played
    | some between =>
      rw [moved] at played
      exact Relation.ReflTransGen.head (next?_step moved) (ih played)

end System

end Storefront
