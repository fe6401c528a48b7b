/-
**Calls never wait for each other in a circle.**

An `Errand` is a call of a store or the question whether the database is healthy.  Every errand is frugal
(`Errand.frugal_program`): only a call that makes an order asks for the turn, with nothing in its hands,
and afterwards for its one connection; every other errand asks for one connection only.

Main statement: `errands_always_go_on` — however errands are run beside each other, with one connection or
with more, as long as one is not at its end one of them can move.
-/

import Storefront.Proofs.Store.Conduct

namespace Storefront

/-! ### Errands -/

/-- What can be asked of the database. -/
inductive Errand
  | store (call : StoreCall)
  | health

namespace Errand

/-- What comes of an errand. -/
abbrev Result := StoreAnswer ⊕ Except DriverError Unit

/-- What an errand does. -/
def program : Errand → Program Result
  | .store call => .inl <$> call.program
  | .health => .inr <$> Health.ping

/-- No errand waits for more than it may. -/
theorem frugal_program (errand : Errand) : errand.program.Frugal := by
  cases errand with
  | store call => exact call.frugal_program.map _
  | health => exact Program.Modest.map Health.ping_conducted.modest _

end Errand

namespace System

/-- Errands that have not begun, on tables and with a number of connections. -/
def ofErrands {ι : Type} (errands : ι → Errand) (tables : Tables) (size : Nat) :
    System ι Errand.Result :=
  .start (fun who => (errands who).program) tables size

end System

section Circle

variable [Collation] {ι : Type} [DecidableEq ι] {errands : ι → Errand} {tables : Tables} {size : Nat}
  {now : System ι Errand.Result}

/-- Errands are modest wherever they are. -/
theorem Errand.modest_of_run (run : (System.ofErrands errands tables size).Run now) (who : ι) :
    (now.stages who).Modest :=
  run.modest (fun other => (errands other).frugal_program) who

/-- When a connection has come back, an errand that is not at its end can move. -/
theorem Errand.exists_next_of_returned (run : (System.ofErrands errands tables size).Run now)
    {leaver : ι} (leaves : (now.stages leaver).leaving = 1) {seed : Nat} {after : System ι Errand.Result}
    (returned : now.next? ⟨leaver, seed⟩ = some after) (going : ∃ who, (now.stages who).isOver = false) :
    ∃ mover, (after.stages mover).isOver = false ∧
      ∀ seed, ∃ later, after.next? ⟨mover, seed⟩ = some later ∧ after.Step later := by
  obtain ⟨who, going⟩ := going
  have later : (System.ofErrands errands tables size).Run after := run.tail (System.next?_step returned)
  obtain ⟨stage, deeds, moved, atEnd, left⟩ := System.exists_next_of_leaving leaves seed
  obtain rfl : now.moved leaver stage deeds = after := Option.some.inj (moved.symm.trans returned)
  have free : (now.moved leaver stage deeds).free = now.free + 1 :=
    System.free_moved_of_leaving leaves atEnd left
  have other : who ≠ leaver := by
    rintro rfl
    exact Bool.noConfusion (going.symm.trans (Stage.isOver_of_leaving leaves))
  have still : ((now.moved leaver stage deeds).stages who).isOver = false := by
    rwa [System.stages_moved_of_ne other]
  obtain ⟨mover, under, moves⟩ := later.accounted.exists_next_of_free
    (fun who => modest_of_run later who) still (free ▸ Nat.succ_ne_zero _)
  refine ⟨mover, under, fun seed => ?_⟩
  obtain ⟨last, moved⟩ := moves seed
  exact ⟨last, moved, System.next?_step moved⟩

/-- **Errands never wait for each other in a circle.** However errands are run beside each other, also if
they fail or are dropped on their way: whoever has a connection asks neither for another one nor for the
turn to make an order; every connection is free, held by exactly one errand that is under way, or on its
way back from one; a turn that is taken is held by exactly one; who has come to its end holds nothing, and
a connection that is on its way back is free after one step that nobody can stop; and if there is a
connection at all, then as long as one errand is not at its end something can move: an errand that is not
at its end, or a connection comes back and then such an errand can move. -/
theorem errands_always_go_on (run : (System.ofErrands errands tables size).Run now) :
    (∀ who call next connection turn,
      now.stages who = .running (.ask call next) (some connection) turn →
        call ≠ .takeTurn ∧ call ≠ .connect) ∧
      (∃ holders leavers : Finset ι, (∀ who, who ∈ holders ↔ (now.stages who).held = 1) ∧
        (∀ who, who ∈ leavers ↔ (now.stages who).leaving = 1) ∧
        now.free + holders.card + leavers.card = size) ∧
      (∀ first second, (now.stages first).turn = true → (now.stages second).turn = true →
        first = second) ∧
      (now.turnTaken = true ↔ ∃ who, (now.stages who).turn = true) ∧
      (∀ who, (now.stages who).isOver = true →
        (now.stages who).held = 0 ∧ (now.stages who).turn = false) ∧
      (∀ who, (now.stages who).leaving = 1 → (now.stages who).isOver = true ∧
        ∀ seed, ∃ after, now.next? ⟨who, seed⟩ = some after ∧ now.Step after ∧
          after.free = now.free + 1 ∧ (after.stages who).leaving = 0) ∧
      (0 < size → (∃ who, (now.stages who).isOver = false) →
        (∃ mover, ∀ seed, ∃ after, now.next? ⟨mover, seed⟩ = some after ∧ now.Step after) ∧
        ((∃ mover, (now.stages mover).isOver = false ∧
          ∀ seed, ∃ after, now.next? ⟨mover, seed⟩ = some after ∧ now.Step after) ∨
          ∃ leaver, (now.stages leaver).leaving = 1 ∧
            ∀ seed after, now.next? ⟨leaver, seed⟩ = some after →
              ∃ mover, (after.stages mover).isOver = false ∧
                ∀ seed, ∃ later, after.next? ⟨mover, seed⟩ = some later ∧ after.Step later)) := by
  have modest := Errand.modest_of_run run
  have accounted : now.Accounted size := run.accounted
  have one := run.oneTurn
  have returns : ∀ who, (now.stages who).leaving = 1 →
      ∀ seed, ∃ after, now.next? ⟨who, seed⟩ = some after ∧ now.Step after ∧
        after.free = now.free + 1 ∧ (after.stages who).leaving = 0 := by
    intro who leaves seed
    obtain ⟨stage, deeds, moved, atEnd, left⟩ := System.exists_next_of_leaving leaves seed
    refine ⟨_, moved, System.next?_step moved, System.free_moved_of_leaving leaves atEnd left, ?_⟩
    rw [System.stages_moved_self]
    exact left
  refine ⟨?_, accounted.connections, one.single, ⟨accounted.turn, ?_⟩, ?_, ?_, ?_⟩
  · intro who call next connection turn running
    have asks := modest who
    rw [running] at asks
    constructor
    · rintro rfl
      exact Bool.noConfusion asks.1
    · rintro rfl
      exact Bool.noConfusion asks.1
  · rintro ⟨who, turn⟩
    exact one.taken who turn
  · exact fun who ended => Stage.held_of_isOver ended
  · exact fun who leaves => ⟨Stage.isOver_of_leaving leaves, returns who leaves⟩
  · rintro positive ⟨who, going⟩
    obtain ⟨mover, under, moves⟩ | ⟨leaver, leaves⟩ := accounted.exists_next positive modest going
    · have steps : ∀ seed, ∃ after, now.next? ⟨mover, seed⟩ = some after ∧ now.Step after := by
        intro seed
        obtain ⟨after, moved⟩ := moves seed
        exact ⟨after, moved, System.next?_step moved⟩
      exact ⟨⟨mover, steps⟩, Or.inl ⟨mover, under, steps⟩⟩
    · refine ⟨⟨leaver, fun seed => ?_⟩, Or.inr ⟨leaver, leaves, fun seed after returned => ?_⟩⟩
      · obtain ⟨after, moved, step, _⟩ := returns leaver leaves seed
        exact ⟨after, moved, step⟩
      · exact Errand.exists_next_of_returned run leaves returned ⟨who, going⟩

end Circle

/-- Two calls that make orders, one that looks for an order, and a question for the health. -/
def Errand.sample : Fin 4 → Errand
  | 0 | 1 => .store (.createOrder (some .sample))
  | 2 => .store (.orderById (.numbered 7))
  | 3 => .health

/-- All of them begin, and the first one takes the turn and the only connection. -/
def Beat.crowd : List (Beat (Fin 4)) :=
  [⟨0, 0⟩, ⟨1, 0⟩, ⟨2, 0⟩, ⟨3, 0⟩, ⟨0, 0⟩, ⟨0, 10⟩, ⟨0, 11⟩, ⟨0, 0⟩, ⟨0, 0⟩]

theorem errands_always_go_on_crowd :
    ∃ now, (System.ofErrands Errand.sample .sample 1).Run now ∧ now.free = 0 ∧ now.turnTaken = true ∧
      (∀ who ≠ 0, ∀ seed, now.next? ⟨who, seed⟩ = none) ∧
      ∃ mover, ∀ seed, ∃ after, now.next? ⟨mover, seed⟩ = some after := by
  have played : ∃ now, (System.ofErrands Errand.sample .sample 1).play? Beat.crowd = some now ∧
      now.free = 0 ∧ now.turnTaken = true ∧ (now.stages 1).isOver = false ∧
      ∀ who ≠ 0, ∀ seed, now.next? ⟨who, seed⟩ = none := by
    refine ⟨_, rfl, rfl, rfl, rfl, fun who other seed => ?_⟩
    match who, other with
    | 1, _ => rfl
    | 2, _ => rfl
    | 3, _ => rfl
  obtain ⟨now, played, free, taken, going, waiting⟩ := played
  have run := System.play?_run played
  obtain ⟨_, _, _, _, _, _, goes⟩ := errands_always_go_on run
  obtain ⟨⟨mover, moves⟩, _⟩ := goes Nat.one_pos ⟨1, going⟩
  refine ⟨now, run, free, taken, waiting, mover, fun seed => ?_⟩
  obtain ⟨after, moved, _⟩ := moves seed
  exact ⟨after, moved⟩

end Storefront
