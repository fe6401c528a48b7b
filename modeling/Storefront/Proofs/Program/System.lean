/-
**Programs beside each other.**

A `System` is any number of programs on one database: the tables, the turn to make an order, the
connections that are free, how far each program has come, and every statement that has been sent.
One step of the system is one move of one program (`Stage.Moves`).  A program may be dropped
wherever it waits, also after a statement has been carried out and before its answer is heard.

A program that ends or is dropped gives its turn back at once.  Its connection is only on its way
back then: it is free again after a later move, which rolls back a transaction that the program has
not ended.  That `ROLLBACK` is sent for the program when it has long come to its end
(`Entry.late`), and others may move in between.

* `System.Step` is one step, `System.Run` any number of them;
* `System.addedBy` is what a program has added to the tables.

Main statements:

* `System.Run.oneTurn`: one program at most has the turn;
* `System.Run.tables_eq`: all that is new in the tables has been added by the statements that have
  been sent;
* `System.Run.parted`: what is sent late for a program is one `ROLLBACK` behind its own statements.
-/

import Mathlib.Logic.Function.Basic
import Storefront.Proofs.Program.Keeps

namespace Storefront

/-- The rows of several tables, the first ones in front. -/
def Tables.sum : List Tables → Tables
  | [] => .empty
  | first :: rest => first ++ sum rest

theorem Tables.sum_append (first second : List Tables) :
    sum (first ++ second) = sum first ++ sum second := by
  induction first with
  | nil => exact Tables.empty_append.symm
  | cons head rest ih => rw [List.cons_append, sum, ih, sum, Tables.append_assoc]

theorem Tables.sum_eq_empty {all : List Tables} (nothing : ∀ tables ∈ all, tables = .empty) :
    sum all = .empty := by
  induction all with
  | nil => rfl
  | cons head rest ih =>
    rw [sum, nothing head List.mem_cons_self, ih fun tables member =>
      nothing tables (List.mem_cons_of_mem _ member),
      Tables.append_empty]

/-! ### Programs on their way -/

/-- How far a program has come. -/
inductive Stage (ρ : Type)
  | ready (program : Program ρ)
  /-- Under way, with its connection, and whether it has the turn to make an order. -/
  | running (program : Program ρ) (connection : Option Connection) (turn : Bool)
  /-- At its end, with the connection that is on its way back. -/
  | ended (result : ρ) (leaving : Option Connection)
  /-- Dropped while it waited, perhaps after a statement whose answer it did not hear, with the
  connection that is on its way back. -/
  | dropped (unheard : Option Statement) (leaving : Option Connection)

/-- A statement that has been sent, and the rows that it has added to the tables. -/
structure Deed where
  statement : Statement
  added : Tables

/-- What a single statement adds. -/
theorem Tables.sum_singleton (deed : Deed) : sum ([deed].map Deed.added) = deed.added :=
  Tables.append_empty deed.added

namespace Connection

/-- What is sent before a connection is free again: a transaction that has not been ended is rolled
back. -/
def closing (connection : Connection) : List Deed :=
  if connection.guarded then [⟨⟨.rollback, []⟩, .empty⟩] else []

/-- The connection of a program that has not heard the answer to its last statement: as far as it
knows, its transaction has not been ended. -/
def unheard (before after : Option Connection) : Option Connection :=
  after.map fun connection =>
    { connection with guarded := connection.guarded || (before.map Connection.guarded).getD false }

theorem eq_of_mem_closing {connection : Connection} {deed : Deed} (member : deed ∈ connection.closing) :
    deed = ⟨⟨.rollback, []⟩, .empty⟩ := by
  unfold closing at member
  split at member
  · exact List.mem_singleton.mp member
  · cases member

theorem length_closing_le (connection : Connection) : connection.closing.length ≤ 1 := by
  unfold closing
  split
  · exact Nat.le_refl 1
  · exact Nat.zero_le 1

end Connection

namespace Stage

variable {ρ : Type}

/-- Has the program the turn to make an order? -/
def turn : Stage ρ → Bool
  | running _ _ turn => turn
  | _ => false

/-- How many connections the program has. -/
def held : Stage ρ → Nat
  | running _ (some _) _ => 1
  | _ => 0

/-- How many connections are on their way back from the program. -/
def leaving : Stage ρ → Nat
  | ended _ (some _) | dropped _ (some _) => 1
  | _ => 0

/-- Has the program come to its end? -/
def isOver : Stage ρ → Bool
  | ended _ _ | dropped _ _ => true
  | _ => false

/-- Is the program under way? -/
def Running (stage : Stage ρ) : Prop :=
  ∃ program connection turn, stage = running program connection turn

/-- Has the program this result? -/
def Returned (stage : Stage ρ) (result : ρ) : Prop :=
  (∃ connection, stage = ended result connection) ∨
    ∃ connection turn, stage = running (.done result) connection turn

/-- One move of a program on these tables, and the statements that it sends. -/
inductive Moves [Collation] (tables : Tables) (turnTaken : Bool) (free : Nat) :
    Stage ρ → Stage ρ → List Deed → Prop
  | begins {program : Program ρ} :
      Moves tables turnTaken free (.ready program) (.running program none false) []
  | freshId {next : Uuid → Program ρ} {connection : Option Connection} {turn : Bool} (id : Uuid) :
      Moves tables turnTaken free (.running (.ask .freshId next) connection turn)
        (.running (next id) connection turn) []
  | readClock {next : Timestamp → Program ρ} {connection : Option Connection} {turn : Bool}
      (nanos : Int) :
      Moves tables turnTaken free (.running (.ask .readClock next) connection turn)
        (.running (next (.ofClock nanos)) connection turn) []
  | takeTurn {next : Unit → Program ρ} {connection : Option Connection} {turn : Bool}
      (available : turnTaken = false) :
      Moves tables turnTaken free (.running (.ask .takeTurn next) connection turn)
        (.running (next ()) connection true) []
  | connect {next : Except DriverError Unit → Program ρ} {connection : Option Connection} {turn : Bool}
      (available : 0 < free) :
      Moves tables turnTaken free (.running (.ask .connect next) connection turn)
        (.running (next (.ok ())) (some {}) turn) []
  | unconnected {next : Except DriverError Unit → Program ρ} {connection : Option Connection}
      {turn : Bool} (cause : DriverError) :
      Moves tables turnTaken free (.running (.ask .connect next) connection turn)
        (.running (next (.error cause)) connection turn) []
  | answered {statement : Statement} {next : Except DriverError (List Row) → Program ρ}
      {connection after : Option Connection} {turn : Bool} {answer : Except DriverError (List Row)}
      {rows : Tables} (exchange : Exchange statement tables connection answer rows after) :
      Moves tables turnTaken free (.running (.ask (.send statement) next) connection turn)
        (.running (next answer) after turn) [⟨statement, rows⟩]
  | unheard {statement : Statement} {next : Except DriverError (List Row) → Program ρ}
      {connection after : Option Connection} {turn : Bool} {answer : Except DriverError (List Row)}
      {rows : Tables} (exchange : Exchange statement tables connection answer rows after) :
      Moves tables turnTaken free (.running (.ask (.send statement) next) connection turn)
        (.dropped (some statement) (Connection.unheard connection after)) [⟨statement, rows⟩]
  | dropped {call : Call} {next : call.Answer → Program ρ} {connection : Option Connection}
      {turn : Bool} (waits : call.waits = true) :
      Moves tables turnTaken free (.running (.ask call next) connection turn)
        (.dropped none connection) []
  | ends {result : ρ} {connection : Option Connection} {turn : Bool} :
      Moves tables turnTaken free (.running (.done result) connection turn)
        (.ended result connection) []
  /-- The connection of a program that has ended is free again. -/
  | closesEnded {result : ρ} {connection : Connection} :
      Moves tables turnTaken free (.ended result (some connection)) (.ended result none)
        connection.closing
  /-- The connection of a program that has been dropped is free again. -/
  | closesDropped {statement : Option Statement} {connection : Connection} :
      Moves tables turnTaken free (.dropped statement (some connection)) (.dropped statement none)
        connection.closing

/-- A program that has the turn after a move had it before, or has taken it when it was free. -/
theorem Moves.turn_of_turn [Collation] {tables : Tables} {turnTaken : Bool} {free : Nat}
    {before after : Stage ρ} {deeds : List Deed}
    (moves : Moves tables turnTaken free before after deeds) (turn : after.turn = true) :
    before.turn = true ∨ turnTaken = false := by
  cases moves with
  | takeTurn available => exact Or.inr available
  | begins => cases turn
  | unheard exchange => cases turn
  | dropped waits => cases turn
  | ends => cases turn
  | closesEnded => cases turn
  | closesDropped => cases turn
  | _ => exact Or.inl turn

/-- A program has one result. -/
theorem Returned.unique {stage : Stage ρ} {first second : ρ} (one : stage.Returned first)
    (two : stage.Returned second) : first = second := by
  obtain ⟨_, rfl⟩ | ⟨_, _, rfl⟩ := one
  · obtain ⟨_, same⟩ | ⟨_, _, impossible⟩ := two
    · cases same
      rfl
    · cases impossible
  · obtain ⟨_, impossible⟩ | ⟨_, _, same⟩ := two
    · cases impossible
    · cases same
      rfl

/-- A result stays. -/
theorem Returned.moves [Collation] {tables : Tables} {turnTaken : Bool} {free : Nat}
    {before after : Stage ρ} {deeds : List Deed} {result : ρ} (returned : before.Returned result)
    (moves : Moves tables turnTaken free before after deeds) :
    after.Returned result := by
  obtain ⟨_, rfl⟩ | ⟨_, _, rfl⟩ := returned
  · cases moves with
    | closesEnded => exact Or.inl ⟨none, rfl⟩
  · cases moves with
    | ends => exact Or.inl ⟨_, rfl⟩

/-- Who has come to its end stays there; all that it can still do is to give its connection back. -/
theorem Moves.closes_of_isOver [Collation] {tables : Tables} {turnTaken : Bool} {free : Nat}
    {before after : Stage ρ} {deeds : List Deed} (moves : Moves tables turnTaken free before after deeds)
    (atEnd : before.isOver = true) :
    before.leaving = 1 ∧ after.leaving = 0 ∧ after.isOver = true ∧
      ∃ connection : Connection, deeds = connection.closing := by
  cases moves with
  | closesEnded => exact ⟨rfl, rfl, rfl, _, rfl⟩
  | closesDropped => exact ⟨rfl, rfl, rfl, _, rfl⟩
  | _ => cases atEnd

/-- Whose connection is on its way back has come to its end. -/
theorem isOver_of_leaving {stage : Stage ρ} (leaves : stage.leaving = 1) : stage.isOver = true := by
  cases stage with
  | ready program => cases leaves
  | running program connection turn => cases leaves
  | ended result connection => rfl
  | dropped unheard connection => rfl

end Stage

/-! ### Systems -/

/-- A statement that has been sent by a program, or for it. -/
structure Entry (ι : Type) extends Deed where
  who : ι
  /-- Had the program come to its end before? -/
  late : Bool

/-- Any number of programs on one database. -/
structure System (ι ρ : Type) where
  tables : Tables
  /-- Is somebody making an order? -/
  turnTaken : Bool := false
  /-- How many connections are free. -/
  free : Nat
  stages : ι → Stage ρ
  /-- The statements that have been sent, in order. -/
  log : List (Entry ι) := []

namespace System

variable {ι ρ : Type}

/-- One program at most has the turn, and nobody can take it then. -/
structure OneTurn (now : System ι ρ) : Prop where
  single : ∀ first second, (now.stages first).turn = true → (now.stages second).turn = true →
    first = second
  taken : ∀ who, (now.stages who).turn = true → now.turnTaken = true

/-- While another program has the turn, a program that moves has it neither before nor after. -/
theorem OneTurn.waits [Collation] {now : System ι ρ} {who other : ι} {stage : Stage ρ}
    {deeds : List Deed} (one : now.OneTurn)
    (moves : Stage.Moves now.tables now.turnTaken now.free (now.stages who) stage deeds)
    (different : other ≠ who) (turn : (now.stages other).turn = true) :
    (now.stages who).turn = false ∧ stage.turn = false := by
  have before : (now.stages who).turn = false := by
    by_contra both
    exact different (one.single other who turn (eq_true_of_ne_false both))
  refine ⟨before, ?_⟩
  by_contra after
  rcases moves.turn_of_turn (eq_true_of_ne_false after) with held | free
  · rw [before] at held
    cases held
  · rw [one.taken other turn] at free
    cases free

variable [DecidableEq ι]

/-- Programs that have not begun, on tables and with a number of connections. -/
def start (programs : ι → Program ρ) (tables : Tables) (size : Nat) : System ι ρ where
  tables := tables
  free := size
  stages who := .ready (programs who)

/-- The system after a move of a program. -/
def moved (system : System ι ρ) (who : ι) (stage : Stage ρ) (deeds : List Deed) : System ι ρ where
  tables := system.tables ++ .sum (deeds.map Deed.added)
  turnTaken := if (system.stages who).turn = stage.turn then system.turnTaken else stage.turn
  free := system.free + ((system.stages who).held + (system.stages who).leaving) -
    (stage.held + stage.leaving)
  stages := Function.update system.stages who stage
  log := system.log ++ deeds.map fun deed => ⟨deed, who, (system.stages who).isOver⟩

/-- One step: a move of one program. -/
def Step [Collation] (before after : System ι ρ) : Prop :=
  ∃ who stage deeds, Stage.Moves before.tables before.turnTaken before.free
    (before.stages who) stage deeds ∧
    after = before.moved who stage deeds

/-- Any number of steps. -/
def Run [Collation] : System ι ρ → System ι ρ → Prop := Relation.ReflTransGen Step

/-- The entries of a program. -/
def entriesOf (system : System ι ρ) (who : ι) : List (Entry ι) :=
  system.log.filter fun entry => entry.who = who

/-- What a program has added to the tables. -/
def addedBy (system : System ι ρ) (who : ι) : Tables :=
  .sum ((system.entriesOf who).map fun entry => entry.added)

section Moved

variable {system : System ι ρ} {who other : ι} {stage : Stage ρ} {deeds : List Deed}

theorem stages_moved_self : (system.moved who stage deeds).stages who = stage :=
  Function.update_self ..

theorem stages_moved_of_ne (different : other ≠ who) :
    (system.moved who stage deeds).stages other = system.stages other :=
  Function.update_of_ne different ..

theorem entriesOf_moved_self : (system.moved who stage deeds).entriesOf who =
    system.entriesOf who ++ deeds.map fun deed => ⟨deed, who, (system.stages who).isOver⟩ := by
  unfold entriesOf moved
  dsimp only
  rw [List.filter_append]
  refine congrArg (_ ++ ·) (List.filter_eq_self.mpr fun entry member => ?_)
  obtain ⟨deed, _, rfl⟩ := List.mem_map.mp member
  exact decide_eq_true rfl

theorem entriesOf_moved_of_ne (different : other ≠ who) :
    (system.moved who stage deeds).entriesOf other = system.entriesOf other := by
  unfold entriesOf moved
  dsimp only
  rw [List.filter_append]
  refine (congrArg (_ ++ ·) (List.filter_eq_nil_iff.mpr fun entry member => ?_)).trans (List.append_nil _)
  obtain ⟨deed, _, rfl⟩ := List.mem_map.mp member
  simpa using different.symm

theorem addedBy_moved_self :
    (system.moved who stage deeds).addedBy who = system.addedBy who ++ .sum (deeds.map Deed.added) := by
  unfold addedBy
  rw [entriesOf_moved_self, List.map_append, List.map_map, Tables.sum_append]
  rfl

theorem addedBy_moved_of_ne (different : other ≠ who) :
    (system.moved who stage deeds).addedBy other = system.addedBy other := by
  unfold addedBy
  rw [entriesOf_moved_of_ne different]

end Moved

/-- A move leaves one program at most with the turn. -/
theorem OneTurn.moved [Collation] {now : System ι ρ} {who : ι} {stage : Stage ρ} {deeds : List Deed}
    (one : now.OneTurn)
    (moves : Stage.Moves now.tables now.turnTaken now.free (now.stages who) stage deeds) :
    (now.moved who stage deeds).OneTurn where
  single first second mine yours := by
    by_cases same : first = who
    · by_cases same' : second = who
      · rw [same, same']
      · rw [stages_moved_of_ne same'] at yours
        rw [same, stages_moved_self, (one.waits moves same' yours).2] at mine
        cases mine
    · rw [stages_moved_of_ne same] at mine
      by_cases same' : second = who
      · rw [same', stages_moved_self, (one.waits moves same mine).2] at yours
        cases yours
      · rw [stages_moved_of_ne same'] at yours
        exact one.single first second mine yours
  taken other turn := by
    unfold System.moved
    dsimp only
    by_cases same : other = who
    · rw [same, stages_moved_self] at turn
      split
      · next unchanged => exact one.taken who (unchanged.trans turn)
      · exact turn
    · rw [stages_moved_of_ne same] at turn
      obtain ⟨before, after⟩ := one.waits moves same turn
      rw [before, after, if_pos rfl]
      exact one.taken other turn

/-- However programs are run beside each other, one at most has the turn. -/
theorem Run.oneTurn [Collation] {programs : ι → Program ρ} {tables : Tables} {size : Nat}
    {now : System ι ρ} (run : (start programs tables size).Run now) : now.OneTurn := by
  induction run with
  | refl =>
    refine { single := ?_, taken := ?_ }
    · exact fun _ _ turn => nomatch turn
    · exact fun _ turn => nomatch turn
  | tail before step ih =>
    obtain ⟨who, stage, deeds, moves, rfl⟩ := step
    exact ih.moved moves

/-- All that is new in the tables has been added by the statements of the log. -/
theorem Run.tables_eq [Collation] {programs : ι → Program ρ} {tables : Tables} {size : Nat}
    {now : System ι ρ} (run : (start programs tables size).Run now) :
    now.tables = tables ++ .sum (now.log.map fun entry => entry.added) := by
  induction run with
  | refl => exact (Tables.append_empty tables).symm
  | tail before step ih =>
    obtain ⟨who, stage, deeds, _, rfl⟩ := step
    unfold moved
    dsimp only
    rw [ih, List.map_append, List.map_map, Tables.sum_append, Tables.append_assoc]
    rfl

/-! ### What is sent late -/

/-- The entries of a program are its own and then, once its connection is back, at most one that was
sent late for it: a `ROLLBACK`. -/
structure Parted (system : System ι ρ) (who : ι) : Prop where
  early : ((system.stages who).isOver = false ∨ (system.stages who).leaving = 1) →
    ∀ entry ∈ system.entriesOf who, entry.late = false
  parts : ∃ own late, system.entriesOf who = own ++ late ∧ (∀ entry ∈ own, entry.late = false) ∧
    late.length ≤ 1 ∧ ∀ entry ∈ late, entry.late = true ∧ entry.statement = ⟨.rollback, []⟩ ∧
      entry.added = .empty

theorem Parted.of_early {system : System ι ρ} {who : ι}
    (early : ∀ entry ∈ system.entriesOf who, entry.late = false) : system.Parted who :=
  ⟨fun _ => early, _, [], (List.append_nil _).symm, early, Nat.zero_le 1, nofun⟩

/-- A move leaves the entries in these parts. -/
theorem Parted.moved [Collation] {now : System ι ρ} {who : ι} {stage : Stage ρ} {deeds : List Deed}
    (parted : ∀ who, now.Parted who)
    (moves : Stage.Moves now.tables now.turnTaken now.free (now.stages who) stage deeds) (other : ι) :
    (now.moved who stage deeds).Parted other := by
  by_cases same : other = who
  · subst same
    cases atEnd : (now.stages other).isOver with
    | false =>
      refine .of_early fun entry member => ?_
      rw [entriesOf_moved_self, atEnd] at member
      rcases List.mem_append.mp member with before | new
      · exact (parted other).early (Or.inl atEnd) entry before
      · obtain ⟨deed, _, rfl⟩ := List.mem_map.mp new
        rfl
    | true =>
      obtain ⟨leaves, left, still, connection, rfl⟩ := moves.closes_of_isOver atEnd
      refine ⟨?_, _, _, entriesOf_moved_self, (parted other).early (Or.inr leaves), ?_, ?_⟩
      · rw [stages_moved_self, still, left]
        rintro (impossible | impossible) <;> cases impossible
      · rw [List.length_map]
        exact connection.length_closing_le
      · intro entry member
        obtain ⟨deed, inside, rfl⟩ := List.mem_map.mp member
        rw [connection.eq_of_mem_closing inside]
        exact ⟨atEnd, rfl, rfl⟩
  · refine ⟨?_, ?_⟩
    · rw [stages_moved_of_ne same, entriesOf_moved_of_ne same]
      exact (parted other).early
    · rw [entriesOf_moved_of_ne same]
      exact (parted other).parts

/-- However programs are run beside each other, what is sent late for one of them is one `ROLLBACK`
behind all that it has sent itself. -/
theorem Run.parted [Collation] {programs : ι → Program ρ} {tables : Tables} {size : Nat}
    {now : System ι ρ} (run : (start programs tables size).Run now) (who : ι) : now.Parted who := by
  induction run generalizing who with
  | refl => exact .of_early nofun
  | tail before step ih =>
    obtain ⟨mover, stage, deeds, moves, rfl⟩ := step
    exact Parted.moved ih moves who

end System

end Storefront
