/-
**Taking turns.**

A program that never asks for the turn to make an order never has it (`System.Run.turnless`).  A
program may also need the turn for everything that it sends (`NeedsTurn`).  Since one program at
most has the turn, what such programs send stands in the log in blocks: between two statements of
one of them there is none of another (`System.Run.blocks`).  What is sent late for a program, when
its turn is free again, may stand anywhere behind its block.
-/

import Storefront.Proofs.Program.Together

namespace Storefront

/-! ### Programs that never ask -/

/-- The program never asks for the turn to make an order. -/
def Program.Turnless {α : Type} : Program α → Prop
  | .done _ => True
  | .ask call next => call ≠ .takeTurn ∧ ∀ answer, Turnless (next answer)

section Rules

variable {α β : Type} {fail : DriverError → StoreError}

/-- One program after another. -/
theorem Program.Turnless.bind {program : Program α} {next : α → Program β}
    (first : program.Turnless) (rest : ∀ value, (next value).Turnless) :
    (program >>= next).Turnless := by
  induction program with
  | done value => exact rest value
  | ask call later ih => exact ⟨first.1, fun answer => ih answer (first.2 answer)⟩

namespace Operation

/-- One operation after another. -/
theorem turnless_bind {operation : Operation α} {next : α → Operation β}
    (first : operation.run.Turnless) (rest : ∀ value, (next value).run.Turnless) :
    (operation >>= next).run.Turnless := by
  refine Program.Turnless.bind first fun result => ?_
  cases result with
  | ok value => exact rest value
  | error cause => trivial

theorem turnless_pure {value : α} : (pure value : Operation α).run.Turnless := trivial

theorem turnless_known {result : Except DriverError α} : (known fail result).run.Turnless := trivial

theorem turnless_freshId : freshId.run.Turnless := ⟨nofun, fun _ => trivial⟩

theorem turnless_readClock : readClock.run.Turnless := ⟨nofun, fun _ => trivial⟩

theorem turnless_connect : (connect fail).run.Turnless := ⟨nofun, fun _ => trivial⟩

theorem turnless_send {query : Query} {values : List Cell} :
    (send fail query values).run.Turnless :=
  ⟨nofun, fun _ => trivial⟩

end Operation

/-- Changing the answer asks for nothing. -/
theorem Action.turnless_program_map {f : α → β} {action : Action α}
    (turnless : action.program.Turnless) :
    (f <$> action).program.Turnless := by
  cases action with
  | answered value => trivial
  | waiting limit program => exact turnless.bind fun _ => trivial

end Rules

namespace Stage

variable {ρ : Type} {tables : Tables} {turnTaken : Bool} {free : Nat} {before after : Stage ρ}
  {deeds : List Deed}

/-- The program has not the turn, and never asks for it. -/
def Turnless : Stage ρ → Prop
  | ready program => program.Turnless
  | running program _ turn => program.Turnless ∧ turn = false
  | _ => True

theorem Turnless.turn_eq (turnless : before.Turnless) : before.turn = false := by
  cases before with
  | running program connection turn => exact turnless.2
  | _ => rfl

theorem Turnless.moves [Collation] (turnless : before.Turnless)
    (moves : Moves tables turnTaken free before after deeds) :
    after.Turnless := by
  cases moves with
  | begins => exact ⟨turnless, rfl⟩
  | freshId id => exact ⟨turnless.1.2 _, turnless.2⟩
  | readClock nanos => exact ⟨turnless.1.2 _, turnless.2⟩
  | takeTurn available => exact absurd rfl turnless.1.1
  | connect available => exact ⟨turnless.1.2 _, turnless.2⟩
  | unconnected cause => exact ⟨turnless.1.2 _, turnless.2⟩
  | answered exchange => exact ⟨turnless.1.2 _, turnless.2⟩
  | unheard exchange => trivial
  | dropped waits => trivial
  | ends => trivial
  | closesEnded => trivial
  | closesDropped => trivial

end Stage

/-- A program that never asks for the turn never has it. -/
theorem System.Run.turnless [Collation] {ι ρ : Type} [DecidableEq ι] {programs : ι → Program ρ}
    {tables : Tables} {size : Nat} {now : System ι ρ} {who : ι}
    (run : (System.start programs tables size).Run now) (turnless : (programs who).Turnless) :
    (now.stages who).turn = false := by
  suffices kept : (now.stages who).Turnless from kept.turn_eq
  induction run with
  | refl => exact turnless
  | tail before step ih =>
    obtain ⟨other, stage, deeds, moves, rfl⟩ := step
    by_cases same : who = other
    · subst same
      rw [System.stages_moved_self]
      exact ih.moves moves
    · rw [System.stages_moved_of_ne same]
      exact ih

/-! ### Programs that need the turn -/

/-- A program with this promise has the turn whenever it sends a statement. -/
def NeedsTurn (cut : Cut) : Prop :=
  ∀ statement view, cut (some statement) view → view.turn = true

namespace Stage

variable [Collation] {ρ : Type} {cut : Cut} {post : ρ → View → Prop} {view : View} {tables : Tables}
  {turnTaken : Bool} {free : Nat} {before after : Stage ρ} {deeds : List Deed}

/-- The turn is kept until the end. -/
theorem Moves.turn_of_not_isOver (moves : Moves tables turnTaken free before after deeds)
    (turn : before.turn = true) (goes : after.isOver = false) : after.turn = true := by
  cases moves with
  | begins => cases turn
  | takeTurn available => rfl
  | unheard exchange => cases goes
  | dropped waits => cases goes
  | ends => cases goes
  | closesEnded => cases goes
  | closesDropped => cases goes
  | _ => exact turn

/-- Who is under way and sends a statement has the turn. -/
theorem Moves.turn_of_sends (needs : NeedsTurn cut) (kept : before.Keeps cut post view)
    (moves : Moves tables turnTaken free before after deeds) (grown : view.tables.Grown tables)
    (still : before.turn = true →
      tables.orders = view.tables.orders ∧ tables.orderItems = view.tables.orderItems)
    (goes : before.isOver = false) (sends : deeds ≠ []) : before.turn = true := by
  cases moves with
  | answered exchange =>
    obtain ⟨rfl, rfl, keeps⟩ := kept
    obtain ⟨_, lost, _⟩ := (keeps tables ⟨grown, still⟩).2 _ _ _ exchange
    exact needs _ ((view.on tables).exchanged _ _) lost
  | unheard exchange =>
    obtain ⟨rfl, rfl, keeps⟩ := kept
    obtain ⟨_, lost, _⟩ := (keeps tables ⟨grown, still⟩).2 _ _ _ exchange
    exact needs _ ((view.on tables).exchanged _ _) lost
  | closesEnded => cases goes
  | closesDropped => cases goes
  | _ => exact absurd rfl sends

end Stage

namespace System

variable {ι ρ : Type} [DecidableEq ι]

/-- The programs among these that have sent statements themselves, in the order of the log. -/
def senders (system : System ι ρ) (among : ι → Bool) : List ι :=
  ((system.log.filter fun entry => !entry.late).map Entry.who).filter among

/-- What these programs send themselves stands in blocks: between two statements of one program there is
none of another.  Who has sent some and has not come to its end has the turn, and its block is the last
one. -/
structure Blocks (system : System ι ρ) (among : ι → Bool) : Prop where
  apart : ∀ first second, [first, second, first].Sublist (system.senders among) → first = second
  turn : ∀ who ∈ system.senders among, (system.stages who).isOver = false →
    (system.stages who).turn = true
  last : ∀ who, (system.stages who).isOver = false →
    ∀ other, [who, other].Sublist (system.senders among) → other = who

/-- What stands behind in a sublist of two lists stands behind in the first one, or it is in the
second one. -/
theorem sublist_of_concat {α : Type} (front : List α) {first second : List α} {last : α}
    (inside : (front ++ [last]).Sublist (first ++ second)) :
    (front ++ [last]).Sublist first ∨ last ∈ second := by
  obtain ⟨left, right, parts, early, late⟩ := List.sublist_append_iff.mp inside
  rcases List.eq_nil_or_concat right with rfl | ⟨rest, final, rfl⟩
  · rw [List.append_nil] at parts
    exact Or.inl (parts ▸ early)
  · rw [List.concat_eq_append, ← List.append_assoc] at parts
    obtain rfl : last = final := List.singleton_inj.mp (List.append_inj_right' parts rfl)
    rw [List.concat_eq_append] at late
    exact Or.inr (late.mem (List.mem_append_right _ (List.mem_singleton_self last)))

section Moved

variable {now : System ι ρ} {who : ι} {stage : Stage ρ} {deeds : List Deed} {among : ι → Bool}

theorem senders_moved (goes : (now.stages who).isOver = false) :
    (now.moved who stage deeds).senders among =
      now.senders among ++ (deeds.map fun _ => who).filter among := by
  unfold senders moved
  dsimp only
  have own : (deeds.map fun deed => (⟨deed, who, (now.stages who).isOver⟩ : Entry ι)).filter
      (fun entry => !entry.late) = deeds.map fun deed => ⟨deed, who, (now.stages who).isOver⟩ := by
    refine List.filter_eq_self.mpr fun entry member => ?_
    obtain ⟨deed, _, rfl⟩ := List.mem_map.mp member
    rw [goes]
    rfl
  rw [List.filter_append, own, List.map_append, List.filter_append, List.map_map]
  rfl

/-- What is sent late is not sent by the program. -/
theorem senders_moved_late (atEnd : (now.stages who).isOver = true) :
    (now.moved who stage deeds).senders among = now.senders among := by
  unfold senders moved
  dsimp only
  have late : (deeds.map fun deed => (⟨deed, who, (now.stages who).isOver⟩ : Entry ι)).filter
      (fun entry => !entry.late) = [] := by
    refine List.filter_eq_nil_iff.mpr fun entry member => ?_
    obtain ⟨deed, _, rfl⟩ := List.mem_map.mp member
    rw [atEnd]
    exact Bool.false_ne_true
  rw [List.filter_append, late, List.append_nil]

/-- Blocks stay blocks when a program that is under way moves. -/
theorem Blocks.moved [Collation] (blocks : now.Blocks among)
    (moves : Stage.Moves now.tables now.turnTaken now.free (now.stages who) stage deeds)
    (goes : (now.stages who).isOver = false)
    (single : ∀ other, (now.stages other).turn = true → (now.stages who).turn = true → other = who)
    (sends : among who = true → deeds ≠ [] → (now.stages who).turn = true) :
    (now.moved who stage deeds).Blocks among := by
  have own : ∀ other ∈ (deeds.map fun _ => who).filter among,
      other = who ∧ (now.stages who).turn = true := by
    intro other member
    obtain ⟨inside, needs⟩ := List.mem_filter.mp member
    obtain ⟨deed, there, rfl⟩ := List.mem_map.mp inside
    exact ⟨rfl, sends needs (List.ne_nil_of_mem there)⟩
  -- a program that is not at its end has no statements of another one behind its own
  have last : ∀ first second, (now.stages first).isOver = false →
      [first, second].Sublist ((now.moved who stage deeds).senders among) → second = first := by
    intro first second started inside
    rw [senders_moved goes] at inside
    obtain early | late := sublist_of_concat [first] inside
    · exact blocks.last first started second early
    · obtain ⟨rfl, turn⟩ := own second late
      have sent : first ∈ now.senders among ∨ first ∈ (deeds.map fun _ => second).filter among :=
        List.mem_append.mp (inside.mem List.mem_cons_self)
      rcases sent with before | block
      · exact (single first (blocks.turn first before started) turn).symm
      · exact (own first block).1.symm
  refine { apart := ?_, turn := ?_, last := ?_ }
  · intro first second inside
    have pattern := inside
    rw [senders_moved goes] at pattern
    obtain early | late := sublist_of_concat [first, second] pattern
    · exact blocks.apart first second early
    · obtain ⟨rfl, _⟩ := own first late
      exact (last first second goes
        ((List.sublist_append_left [first, second] [first]).trans inside)).symm
  · intro other member still
    rw [senders_moved goes, List.mem_append] at member
    by_cases same : other = who
    · subst same
      rw [stages_moved_self] at still ⊢
      refine moves.turn_of_not_isOver ?_ still
      rcases member with before | block
      · exact blocks.turn other before goes
      · exact (own other block).2
    · rw [stages_moved_of_ne same] at still ⊢
      rcases member with before | block
      · exact blocks.turn other before still
      · exact absurd (own other block).1 same
  · intro other still second inside
    refine last other second ?_ inside
    by_cases same : other = who
    · rw [same]
      exact goes
    · rwa [stages_moved_of_ne same] at still

/-- Blocks stay blocks when a connection comes back. -/
theorem Blocks.closed [Collation] (blocks : now.Blocks among)
    (moves : Stage.Moves now.tables now.turnTaken now.free (now.stages who) stage deeds)
    (atEnd : (now.stages who).isOver = true) : (now.moved who stage deeds).Blocks among := by
  obtain ⟨_, _, still, _⟩ := moves.closes_of_isOver atEnd
  have untouched : ∀ other, ((now.moved who stage deeds).stages other).isOver = false →
      (now.moved who stage deeds).stages other = now.stages other := by
    intro other goes
    by_cases same : other = who
    · rw [same, stages_moved_self, still] at goes
      cases goes
    · exact stages_moved_of_ne same
  refine { apart := ?_, turn := ?_, last := ?_ }
  · rw [senders_moved_late atEnd]
    exact blocks.apart
  · intro other member goes
    have same := untouched other goes
    rw [senders_moved_late atEnd] at member
    rw [same] at goes ⊢
    exact blocks.turn other member goes
  · intro other goes
    have same := untouched other goes
    rw [senders_moved_late atEnd]
    rw [same] at goes
    exact blocks.last other goes

end Moved

/-- What programs that need the turn send themselves stands in blocks. -/
theorem Run.blocks [Collation] {cut : ι → Cut} {post : ι → ρ → View → Prop}
    {programs : ι → Program ρ} {tables : Tables} {size : Nat} {now : System ι ρ} {among : ι → Bool}
    (keeps : ∀ who (tables : Tables), (programs who).Keeps (cut who) (post who)
      { tables := tables })
    (needs : ∀ who, among who = true → NeedsTurn (cut who))
    (run : (start programs tables size).Run now) : now.Blocks among := by
  induction run with
  | refl =>
    refine { apart := ?_, turn := ?_, last := ?_ }
    · exact fun _ _ inside => nomatch inside
    · exact fun _ member => nomatch member
    · exact fun _ _ _ inside => nomatch inside
  | tail before step ih =>
    obtain ⟨who, stage, deeds, moves, rfl⟩ := step
    obtain ⟨view, follows⟩ := (Run.sane keeps before).follows who
    cases atEnd : (System.stages _ who).isOver with
    | true => exact ih.closed moves atEnd
    | false =>
      refine ih.moved moves atEnd (fun other => (Run.oneTurn before).single other who) fun need sends => ?_
      exact moves.turn_of_sends (needs who need) follows.keeps follows.grown follows.still atEnd sends

end System

end Storefront
