/-
**Somebody can always move.**

There is one turn to make an order, and there may be one connection only.  `Program.Modest` says of a
program that it asks for the turn while it has neither the turn nor a connection, asks for a connection
while it has none, and sends statements on a connection only.  So who has a connection waits for nothing
but the database, and who has the turn waits for a connection at most.  A connection that is not free is
held by a program that is under way or is on its way back from one that is not; the turn is free or held
by a program that is under way.  Therefore one of them can move, if need be after a connection has come
back, which needs nobody's help.

Main statements:

* `System.Run.modest`: modest programs stay modest, however they are run beside each other;
* `System.Run.accounted`: every connection is free, held by one program or on its way back from one, and
  a turn that is taken is held by a program;
* `System.exists_next_of_leaving`: a connection that is on its way back can come back;
* `System.Accounted.exists_next`: as long as one of several modest programs is not at its end, one that
  is not can move, or a connection is on its way back.
-/

import Mathlib.Data.Finset.Card
import Storefront.Proofs.Program.Schedule
import Storefront.Proofs.Program.Turns

namespace Storefront

variable {α β : Type}

/-! ### Modest programs -/

/-- What a program has of that which does not suffice for all. -/
structure Possession where
  connection : Bool := false
  turn : Bool := false

/-- May a program that has this make the call, and is it modest afterwards?  When a statement fails the
connection may be lost. -/
def Call.Modest (has : Possession) : (call : Call) → (call.Answer → Possession → Prop) → Prop
  | .freshId, goes => ∀ id, goes id has
  | .readClock, goes => ∀ now, goes now has
  | .takeTurn, goes => has.connection = false ∧ has.turn = false ∧ goes () { has with turn := true }
  | .connect, goes =>
    has.connection = false ∧ goes (.ok ()) { has with connection := true } ∧
      ∀ cause, goes (.error cause) has
  | .send _, goes =>
    has.connection = true ∧ (∀ rows, goes (.ok rows) has) ∧
      ∀ cause connection, goes (.error cause) { has with connection }

/-- The program asks for the turn only while it has nothing, and for a connection only while it has
none. -/
def Program.Modest : Program α → Possession → Prop
  | .done _, _ => True
  | .ask call next, has => call.Modest has fun answer later => Modest (next answer) later

theorem Call.Modest.mono {has : Possession} {call : Call} {first second : call.Answer → Possession → Prop}
    (modest : call.Modest has first) (implies : ∀ answer later, first answer later → second answer later) :
    call.Modest has second := by
  cases call with
  | freshId => exact fun id => implies _ _ (modest id)
  | readClock => exact fun now => implies _ _ (modest now)
  | takeTurn => exact ⟨modest.1, modest.2.1, implies _ _ modest.2.2⟩
  | connect => exact ⟨modest.1, implies _ _ modest.2.1, fun cause => implies _ _ (modest.2.2 cause)⟩
  | send statement =>
    obtain ⟨connected, answered, failed⟩ := modest
    refine ⟨connected, fun rows => implies _ _ (answered rows), ?_⟩
    exact fun cause connection => implies _ _ (failed cause connection)

/-- Changing the result asks for nothing. -/
theorem Program.Modest.map {program : Program α} {has : Possession} (modest : program.Modest has)
    (f : α → β) : (f <$> program).Modest has := by
  induction program generalizing has with
  | done value => trivial
  | ask call next ih => exact Call.Modest.mono modest fun answer later => ih answer

/-- The program is modest to its end, started with nothing. -/
def Program.Frugal (program : Program α) : Prop := program.Modest {}

/-! ### Stages -/

/-- A connection is lost only with an error. -/
theorem Exchange.isSome_of_ok [Collation] {statement : Statement} {tables rows : Tables}
    {before after : Option Connection} {found : List Row}
    (exchange : Exchange statement tables before (.ok found) rows after) : after.isSome = true := by
  generalize same : Except.ok found = answer at exchange
  cases exchange with
  | unconnected => cases same
  | broken => cases same
  | carriedOut added => rfl
  | refused report => rfl

namespace Stage

variable {ρ : Type} {tables : Tables} {turnTaken : Bool} {free : Nat} {before after : Stage ρ}
  {deeds : List Deed}

/-- The program is modest with what it has. -/
def Modest : Stage ρ → Prop
  | ready program => program.Frugal
  | running program connection turn => program.Modest ⟨connection.isSome, turn⟩
  | _ => True

theorem Modest.moves [Collation] (modest : before.Modest)
    (moves : Moves tables turnTaken free before after deeds) :
    after.Modest := by
  cases moves with
  | begins => exact modest
  | freshId id => exact modest id
  | readClock nanos => exact modest _
  | takeTurn available => exact modest.2.2
  | connect available => exact modest.2.1
  | unconnected cause => exact modest.2.2 cause
  | @answered statement next connection after turn answer rows exchange =>
    obtain ⟨connected, answered, failed⟩ := modest
    cases answer with
    | ok found =>
      have goes := answered found
      dsimp only at connected goes
      rw [connected, ← exchange.isSome_of_ok] at goes
      exact goes
    | error cause => exact failed cause after.isSome
  | unheard exchange => trivial
  | dropped waits => trivial
  | ends => trivial
  | closesEnded => trivial
  | closesDropped => trivial

/-- A program has one connection at most, or one is on its way back. -/
theorem held_add_leaving_le_one (stage : Stage ρ) : stage.held + stage.leaving ≤ 1 := by
  cases stage with
  | ready program => exact Nat.zero_le 1
  | running program connection turn => cases connection <;> simp [held, leaving]
  | ended result connection => cases connection <;> simp [held, leaving]
  | dropped unheard connection => cases connection <;> simp [held, leaving]

/-- Who comes to its end holds nothing. -/
theorem held_of_isOver {stage : Stage ρ} (ended : stage.isOver = true) :
    stage.held = 0 ∧ stage.turn = false := by
  cases stage with
  | ready program => cases ended
  | running program connection turn => cases ended
  | ended result connection => exact ⟨rfl, rfl⟩
  | dropped unheard connection => exact ⟨rfl, rfl⟩

/-- Who has no connection gets one only from those that are free. -/
theorem Moves.free_of_connects [Collation] (moves : Moves tables turnTaken free before after deeds)
    (without : before.held + before.leaving = 0) (connected : after.held + after.leaving = 1) :
    0 < free := by
  have idle : ∀ {program : Program ρ} {connection : Option Connection} {turn : Bool},
      (running program connection turn).held + (running program connection turn).leaving = 0 →
        connection = none := by
    intro program connection turn nothing
    cases connection with
    | none => rfl
    | some connection => cases nothing
  cases moves with
  | begins => cases connected
  | connect available => exact available
  | answered exchange =>
    obtain rfl := idle without
    cases exchange with
    | unconnected => cases connected
  | unheard exchange =>
    obtain rfl := idle without
    cases exchange with
    | unconnected => cases connected
  | closesEnded => cases connected
  | closesDropped => cases connected
  | _ =>
    obtain rfl := idle without
    cases connected

end Stage

/-! ### What is held -/

namespace System

variable {ι ρ : Type} {now : System ι ρ} {size : Nat}

/-- Every connection is free, held by one program or on its way back from one, and a turn that is taken
is held. -/
structure Accounted (size : Nat) (now : System ι ρ) : Prop where
  connections : ∃ holders leavers : Finset ι, (∀ who, who ∈ holders ↔ (now.stages who).held = 1) ∧
    (∀ who, who ∈ leavers ↔ (now.stages who).leaving = 1) ∧
    now.free + holders.card + leavers.card = size
  turn : now.turnTaken = true → ∃ who, (now.stages who).turn = true

variable [DecidableEq ι] {who : ι} {stage : Stage ρ} {deeds : List Deed}

/-- When one of them moves, the number of those for whom something counts changes by what it counts for
that one. -/
theorem exists_counted_moved (count : Stage ρ → Nat) {counted : Finset ι}
    (counts : ∀ other, other ∈ counted ↔ count (now.stages other) = 1)
    (before : count (now.stages who) ≤ 1) (after : count stage ≤ 1) :
    ∃ left : Finset ι,
      (∀ other, other ∈ left ↔ count ((now.moved who stage deeds).stages other) = 1) ∧
      left.card + count (now.stages who) = counted.card + count stage := by
  have own : (now.moved who stage deeds).stages who = stage := stages_moved_self
  have others : ∀ other, other ≠ who → (now.moved who stage deeds).stages other = now.stages other :=
    fun other different => stages_moved_of_ne different
  by_cases keeps : count stage = 1
  · refine ⟨insert who counted, fun other => ?_, ?_⟩
    · rw [Finset.mem_insert]
      by_cases same : other = who
      · rw [same, own]
        exact ⟨fun _ => keeps, fun _ => Or.inl rfl⟩
      · rw [others other same, ← counts]
        exact ⟨fun either => either.resolve_left same, Or.inr⟩
    · rw [Finset.card_insert_eq_ite, keeps]
      split
      · next member => rw [(counts who).mp member]
      · next absent =>
        have idle : count (now.stages who) ≠ 1 := fun one => absent ((counts who).mpr one)
        omega
  · refine ⟨counted.erase who, fun other => ?_, ?_⟩
    · rw [Finset.mem_erase]
      by_cases same : other = who
      · rw [same, own]
        exact ⟨fun member => absurd rfl member.1, fun one => absurd one keeps⟩
      · rw [others other same, ← counts]
        exact ⟨fun member => member.2, fun member => ⟨same, member⟩⟩
    · rw [Finset.card_erase_eq_ite]
      split
      · next member =>
        have one := (counts who).mp member
        have positive := Finset.card_pos.mpr ⟨who, member⟩
        omega
      · next absent =>
        have idle : count (now.stages who) ≠ 1 := fun one => absent ((counts who).mpr one)
        omega

/-- What a move takes and gives back is accounted for. -/
theorem Accounted.moved [Collation] (accounted : now.Accounted size)
    (moves : Stage.Moves now.tables now.turnTaken now.free (now.stages who) stage deeds) :
    (now.moved who stage deeds).Accounted size where
  connections := by
    obtain ⟨holders, leavers, holds, leaves, sum⟩ := accounted.connections
    have before := (now.stages who).held_add_leaving_le_one
    have after := stage.held_add_leaving_le_one
    obtain ⟨holding, holds, held⟩ := exists_counted_moved Stage.held holds
      (Nat.le_trans (Nat.le_add_right _ _) before) (Nat.le_trans (Nat.le_add_right _ _) after)
    obtain ⟨returning, leaves, leaving⟩ := exists_counted_moved Stage.leaving leaves
      (Nat.le_trans (Nat.le_add_left _ _) before) (Nat.le_trans (Nat.le_add_left _ _) after)
    refine ⟨holding, returning, holds, leaves, ?_⟩
    have free : (now.moved who stage deeds).free =
      now.free + ((now.stages who).held + (now.stages who).leaving) - (stage.held + stage.leaving) := rfl
    have taken := moves.free_of_connects
    omega
  turn taken := by
    unfold System.moved at taken
    dsimp only at taken
    split at taken
    · next same =>
      obtain ⟨holder, turn⟩ := accounted.turn taken
      refine ⟨holder, ?_⟩
      by_cases own : holder = who
      · rw [own] at turn
        rw [own, stages_moved_self, ← same]
        exact turn
      · rw [stages_moved_of_ne own]
        exact turn
    · refine ⟨who, ?_⟩
      rw [stages_moved_self]
      exact taken

section Run

variable [Collation] {programs : ι → Program ρ} {tables : Tables}

/-- However programs are run beside each other, what is not free is held. -/
theorem Run.accounted (run : (start programs tables size).Run now) : now.Accounted size := by
  induction run with
  | refl =>
    refine { connections := ⟨∅, ∅, fun who => ?_, fun who => ?_, rfl⟩, turn := nofun }
    · exact ⟨nofun, nofun⟩
    · exact ⟨nofun, nofun⟩
  | tail before step ih =>
    obtain ⟨who, stage, deeds, moves, rfl⟩ := step
    exact ih.moved moves

/-- Frugal programs are modest wherever they are. -/
theorem Run.modest (frugal : ∀ who, (programs who).Frugal) (run : (start programs tables size).Run now)
    (who : ι) : (now.stages who).Modest := by
  induction run with
  | refl => exact frugal who
  | tail before step ih =>
    obtain ⟨other, stage, deeds, moves, rfl⟩ := step
    by_cases same : who = other
    · subst same
      rw [stages_moved_self]
      exact ih.moves moves
    · rw [stages_moved_of_ne same]
      exact ih

end Run

/-! ### Moving on -/

/-- A modest program can move if the turn is free or it has the turn or a connection, and a connection is
free or it has one. -/
theorem exists_next_of_modest [Collation] (modest : (now.stages who).Modest)
    (going : (now.stages who).isOver = false)
    (turn : now.turnTaken = true → (now.stages who).turn = true ∨ (now.stages who).held = 1)
    (free : now.free = 0 → (now.stages who).held = 1) (seed : Nat) :
    ∃ after, now.next? ⟨who, seed⟩ = some after := by
  unfold next?
  dsimp only
  generalize now.stages who = stage at modest going turn free
  cases stage with
  | ready program => exact ⟨_, rfl⟩
  | ended result connection => cases going
  | dropped unheard connection => cases going
  | running program connection holding =>
    cases program with
    | done result => exact ⟨_, rfl⟩
    | ask call next =>
      cases call with
      | freshId => exact ⟨_, rfl⟩
      | readClock => exact ⟨_, rfl⟩
      | takeTurn =>
        obtain ⟨unconnected, idle, _⟩ := modest
        have untaken : now.turnTaken = false := by
          by_contra taken
          obtain held | held := turn (eq_true_of_ne_false taken)
          · exact Bool.false_ne_true (idle.symm.trans held)
          · cases connection with
            | none => cases held
            | some connection => cases unconnected
        rw [untaken]
        exact ⟨_, rfl⟩
      | connect =>
        obtain ⟨unconnected, _⟩ := modest
        have available : now.free ≠ 0 := by
          intro exhausted
          have held := free exhausted
          cases connection with
          | none => cases held
          | some connection => cases unconnected
        exact ⟨_, if_neg available⟩
      | send statement =>
        obtain ⟨connected, _⟩ := modest
        cases connection with
        | none => cases connected
        | some connection => exact ⟨_, rfl⟩

/-- Who has something is under way. -/
theorem isOver_of_holds {stage : Stage ρ} (holds : stage.turn = true ∨ stage.held = 1) :
    stage.isOver = false := by
  by_contra ended
  obtain ⟨unconnected, idle⟩ := Stage.held_of_isOver (eq_true_of_ne_false ended)
  rcases holds with turn | held
  · exact Bool.false_ne_true (idle.symm.trans turn)
  · exact Nat.zero_ne_one (unconnected.symm.trans held)

/-- A connection that is on its way back can come back, whatever the others do. -/
theorem exists_next_of_leaving [Collation] (leaves : (now.stages who).leaving = 1) (seed : Nat) :
    ∃ stage deeds, now.next? ⟨who, seed⟩ = some (now.moved who stage deeds) ∧ stage.isOver = true ∧
      stage.leaving = 0 := by
  unfold next?
  dsimp only
  generalize now.stages who = stage at leaves
  cases stage with
  | ready program => cases leaves
  | running program connection turn => cases leaves
  | ended result connection =>
    cases connection with
    | none => cases leaves
    | some connection => exact ⟨_, _, rfl, rfl, rfl⟩
  | dropped unheard connection =>
    cases connection with
    | none => cases leaves
    | some connection => exact ⟨_, _, rfl, rfl, rfl⟩

/-- A connection that has come back is free. -/
theorem free_moved_of_leaving (leaves : (now.stages who).leaving = 1) (atEnd : stage.isOver = true)
    (left : stage.leaving = 0) : (now.moved who stage deeds).free = now.free + 1 := by
  unfold moved
  dsimp only
  rw [leaves, left, (Stage.held_of_isOver atEnd).1,
    (Stage.held_of_isOver (Stage.isOver_of_leaving leaves)).1]
  rfl

/-- While a connection is free somebody can move: who has the turn, else anybody. -/
theorem Accounted.exists_next_of_free [Collation] (accounted : now.Accounted size)
    (modest : ∀ who, (now.stages who).Modest) (going : (now.stages who).isOver = false)
    (free : now.free ≠ 0) :
    ∃ mover, (now.stages mover).isOver = false ∧
      ∀ seed, ∃ after, now.next? ⟨mover, seed⟩ = some after := by
  by_cases taken : now.turnTaken = true
  · obtain ⟨holder, turn⟩ := accounted.turn taken
    have under : (now.stages holder).isOver = false := isOver_of_holds (Or.inl turn)
    refine ⟨holder, under, exists_next_of_modest (modest holder) under ?_ ?_⟩
    · exact fun _ => Or.inl turn
    · exact fun empty => absurd empty free
  · refine ⟨who, going, exists_next_of_modest (modest who) going ?_ ?_⟩
    · exact fun other => absurd other taken
    · exact fun empty => absurd empty free

/-- **Somebody can always move**: while a connection is free who has the turn or anybody, else who has a
connection; or a connection is on its way back. -/
theorem Accounted.exists_next [Collation] (accounted : now.Accounted size) (positive : 0 < size)
    (modest : ∀ who, (now.stages who).Modest) (going : (now.stages who).isOver = false) :
    (∃ mover, (now.stages mover).isOver = false ∧
      ∀ seed, ∃ after, now.next? ⟨mover, seed⟩ = some after) ∨
      ∃ mover, (now.stages mover).leaving = 1 := by
  by_cases free : now.free = 0
  · obtain ⟨holders, leavers, holds, leaves, sum⟩ := accounted.connections
    obtain rfl | ⟨holder, member⟩ := holders.eq_empty_or_nonempty
    · have returning : 0 < leavers.card := by
        rw [Finset.card_empty, free] at sum
        omega
      obtain ⟨leaver, member⟩ := Finset.card_pos.mp returning
      exact Or.inr ⟨leaver, (leaves leaver).mp member⟩
    · have held := (holds holder).mp member
      have under : (now.stages holder).isOver = false := isOver_of_holds (Or.inr held)
      refine Or.inl ⟨holder, under, exists_next_of_modest (modest holder) under ?_ ?_⟩
      · exact fun _ => Or.inr held
      · exact fun _ => held
  · exact Or.inl (accounted.exists_next_of_free modest going free)

end System

end Storefront
