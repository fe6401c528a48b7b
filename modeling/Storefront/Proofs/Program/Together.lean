/-
**Programs that keep their promises beside each other.**

If every program of a system keeps a promise, then in every state that the system can reach every
program has kept it so far (`System.Sane`).  What one program relies on is what the others
guarantee: they add only what the server lets in, and rows of orders only with the turn, which only
one program has at a time.

Main statements:

* `Stage.Moves.keeps`: a move keeps the promise of the program that makes it;
* `System.Sane.moved`: a move of one program does not disturb the others;
* `System.Run.sane`: so every reachable state is sane.
-/

import Storefront.Proofs.Program.System

namespace Storefront

/-! ### One program -/

/-- The statements add nothing. -/
def Deed.Silent (deeds : List Deed) : Prop := ∀ deed ∈ deeds, deed.added = .empty

theorem Deed.silent_nil : Silent [] := fun _ member => nomatch member

theorem Deed.Silent.sum {deeds : List Deed} (silent : Silent deeds) :
    Tables.sum (deeds.map Deed.added) = .empty := by
  refine Tables.sum_eq_empty fun tables member => ?_
  obtain ⟨deed, inside, rfl⟩ := List.mem_map.mp member
  exact silent deed inside

theorem Connection.silent_closing (connection : Connection) : Deed.Silent connection.closing := by
  intro deed member
  rw [eq_of_mem_closing member]

namespace Stage

variable {ρ : Type} {cut : Cut} {post : ρ → View → Prop} {stage after : Stage ρ} {view : View}

/-- A program has kept its promise so far. -/
def Keeps [Collation] (cut : Cut) (post : ρ → View → Prop) : Stage ρ → View → Prop
  | ready program, view =>
    view = { tables := view.tables } ∧ ∀ tables : Tables, program.Keeps cut post { tables := tables }
  | running program connection turn, view =>
    view.connection = connection ∧ view.turn = turn ∧ program.Keeps cut post view
  | ended result leaving, view => (leaving = none ∨ leaving = view.connection) ∧ post result view
  | dropped unheard _, view => cut unheard view

/-- What the statements of one move add: nothing, or what a single one adds by the rule for
statements. -/
def Adds (tables : Tables) (stage : Stage ρ) (deeds : List Deed) : Prop :=
  Deed.Silent deeds ∨ ∃ deed, deeds = [deed] ∧ Addition tables deed.added ∧
    (deed.added.orders = [] ∧ deed.added.orderItems = [] ∨
      stage.turn = true ∧ deed.statement.query = .commit)

/-- What is known after a move, which leads to tables that have the rows of its statements too. -/
structure MovedView (tables : Tables) (stage after : Stage ρ) (view : View) (deeds : List Deed)
    (later : View) :
    Prop where
  grown : later.tables.Grown (tables ++ .sum (deeds.map Deed.added))
  still : after.turn = true → (tables ++ .sum (deeds.map Deed.added)).orders = later.tables.orders ∧
    (tables ++ .sum (deeds.map Deed.added)).orderItems = later.tables.orderItems
  added_eq : later.added = view.added ++ .sum (deeds.map Deed.added)
  seen : ∀ state ∈ later.seen, state ∈ view.seen ∨ state = tables ∧ stage.Running
  adds : stage.Adds tables deeds

theorem adds_of_lawful {tables rows : Tables} {statement : Statement}
    (lawful : statement.Lawful (view.on tables) rows) (turn : stage.turn = view.turn) :
    stage.Adds tables [⟨statement, rows⟩] := by
  rcases lawful with rfl | ⟨addition, rule⟩
  · refine Or.inl fun deed member => ?_
    rw [List.mem_singleton.mp member]
  · exact Or.inr ⟨_, rfl, addition, turn ▸ rule⟩

/-- What is known after a move that adds nothing. -/
theorem movedView_of_silent {tables : Tables} {deeds : List Deed} {later : View}
    (silent : Deed.Silent deeds) (grown : later.tables.Grown tables)
    (still : after.turn = true →
      tables.orders = later.tables.orders ∧ tables.orderItems = later.tables.orderItems)
    (added : later.added = view.added) (seen : later.seen = view.seen) :
    MovedView tables stage after view deeds later where
  grown := by rwa [silent.sum, Tables.append_empty]
  still := by rwa [silent.sum, Tables.append_empty]
  added_eq := by rw [silent.sum, Tables.append_empty, added]
  seen state member := Or.inl (seen ▸ member)
  adds := Or.inl silent

/-- What is known after a call that sends nothing. -/
theorem movedView_on {tables : Tables} {later : View} (same : later.tables = tables)
    (added : later.added = view.added) (seen : later.seen = view.seen) :
    MovedView tables stage after view [] later := by
  subst same
  exact movedView_of_silent Deed.silent_nil Relation.ReflTransGen.refl (fun _ => ⟨rfl, rfl⟩) added seen

/-- What is known after a statement. -/
theorem movedView_exchanged {tables rows : Tables} {statement : Statement}
    {connection : Option Connection} (running : stage.Running) (turn : stage.turn = view.turn)
    (lawful : statement.Lawful (view.on tables) rows) :
    MovedView tables stage after view [⟨statement, rows⟩]
      ((view.on tables).exchanged rows connection) := by
  have sum : Tables.sum ([⟨statement, rows⟩].map Deed.added) = rows := Tables.sum_singleton _
  have adds := adds_of_lawful lawful turn
  refine { grown := ?_, still := ?_, added_eq := ?_, seen := ?_, adds }
  · rw [sum]
    exact Relation.ReflTransGen.refl
  · rw [sum]
    exact fun _ => ⟨rfl, rfl⟩
  · rw [sum]
    rfl
  · intro state member
    rcases List.mem_append.mp member with old | new
    · exact Or.inl old
    · exact Or.inr ⟨List.mem_singleton.mp new, running⟩

/-- A move keeps the promise of the program that makes it. -/
theorem Moves.keeps [Collation] {tables : Tables} {turnTaken : Bool} {free : Nat} {deeds : List Deed}
    (moves : Moves tables turnTaken free stage after deeds) (kept : stage.Keeps cut post view)
    (grown : view.tables.Grown tables)
    (still : stage.turn = true →
      tables.orders = view.tables.orders ∧ tables.orderItems = view.tables.orderItems) :
    ∃ later, after.Keeps cut post later ∧ stage.MovedView tables after view deeds later := by
  cases moves with
  | begins =>
    obtain ⟨fresh, goes⟩ := kept
    refine ⟨{ tables := tables }, ⟨rfl, rfl, goes tables⟩, movedView_on rfl ?_ ?_⟩
    · rw [fresh]
    · rw [fresh]
  | freshId id =>
    obtain ⟨rfl, rfl, goes⟩ := kept
    obtain ⟨_, goes⟩ := goes tables ⟨grown, still⟩
    exact ⟨view.on tables, ⟨rfl, rfl, goes id⟩, movedView_on rfl rfl rfl⟩
  | readClock nanos =>
    obtain ⟨rfl, rfl, goes⟩ := kept
    obtain ⟨_, goes⟩ := goes tables ⟨grown, still⟩
    exact ⟨view.on tables, ⟨rfl, rfl, goes nanos⟩, movedView_on rfl rfl rfl⟩
  | takeTurn available =>
    obtain ⟨rfl, rfl, goes⟩ := kept
    obtain ⟨_, goes⟩ := goes tables ⟨grown, still⟩
    exact ⟨{ view.on tables with turn := true }, ⟨rfl, rfl, goes⟩, movedView_on rfl rfl rfl⟩
  | connect available =>
    obtain ⟨rfl, rfl, goes⟩ := kept
    obtain ⟨_, goes, _⟩ := goes tables ⟨grown, still⟩
    exact ⟨{ view.on tables with connection := some {} }, ⟨rfl, rfl, goes⟩, movedView_on rfl rfl rfl⟩
  | unconnected cause =>
    obtain ⟨rfl, rfl, goes⟩ := kept
    obtain ⟨_, _, goes⟩ := goes tables ⟨grown, still⟩
    exact ⟨view.on tables, ⟨rfl, rfl, goes cause⟩, movedView_on rfl rfl rfl⟩
  | answered exchange =>
    obtain ⟨rfl, rfl, goes⟩ := kept
    obtain ⟨_, goes⟩ := goes tables ⟨grown, still⟩
    obtain ⟨lawful, _, goes⟩ := goes _ _ _ exchange
    exact ⟨(view.on tables).exchanged _ _, ⟨rfl, rfl, goes⟩,
      movedView_exchanged ⟨_, _, _, rfl⟩ rfl lawful⟩
  | unheard exchange =>
    obtain ⟨rfl, rfl, goes⟩ := kept
    obtain ⟨_, goes⟩ := goes tables ⟨grown, still⟩
    obtain ⟨lawful, lost, _⟩ := goes _ _ _ exchange
    exact ⟨(view.on tables).exchanged _ _, lost, movedView_exchanged ⟨_, _, _, rfl⟩ rfl lawful⟩
  | dropped waits =>
    obtain ⟨rfl, rfl, goes⟩ := kept
    have standing : cut none (view.on tables) := (goes tables ⟨grown, still⟩).standing
    exact ⟨view.on tables, standing, movedView_on rfl rfl rfl⟩
  | ends =>
    obtain ⟨rfl, rfl, goes⟩ := kept
    exact ⟨view, ⟨Or.inr rfl, goes⟩, movedView_of_silent Deed.silent_nil grown nofun rfl rfl⟩
  | closesEnded =>
    exact ⟨view, ⟨Or.inl rfl, kept.2⟩,
      movedView_of_silent (Connection.silent_closing _) grown nofun rfl rfl⟩
  | closesDropped =>
    exact ⟨view, kept, movedView_of_silent (Connection.silent_closing _) grown nofun rfl rfl⟩

/-- Adding what a move adds makes the tables grow. -/
theorem Adds.grown {tables : Tables} {deeds : List Deed} (adds : stage.Adds tables deeds) :
    tables.Grown (tables ++ .sum (deeds.map Deed.added)) := by
  rcases adds with silent | ⟨deed, rfl, addition, _⟩
  · rw [silent.sum, Tables.append_empty]
    exact Relation.ReflTransGen.refl
  · rw [Tables.sum_singleton]
    exact Tables.Grown.add Relation.ReflTransGen.refl addition

/-- Without the turn a move adds no rows of orders. -/
theorem Adds.orders_eq {tables : Tables} {deeds : List Deed} (adds : stage.Adds tables deeds)
    (waiting : stage.turn = false) :
    (tables ++ .sum (deeds.map Deed.added)).orders = tables.orders ∧
      (tables ++ .sum (deeds.map Deed.added)).orderItems = tables.orderItems := by
  rcases adds with silent | ⟨deed, rfl, _, nothing | ⟨turn, _⟩⟩
  · rw [silent.sum, Tables.append_empty]
    exact ⟨rfl, rfl⟩
  · rw [Tables.sum_singleton, Tables.orders_append, Tables.orderItems_append, nothing.1, nothing.2,
      List.append_nil, List.append_nil]
    exact ⟨rfl, rfl⟩
  · rw [waiting] at turn
    cases turn

end Stage

/-! ### All programs -/

variable [Collation]

namespace System

variable {ι ρ : Type} [DecidableEq ι]

/-- Has a program met these tables in a run while it was under way? -/
def Met (start now : System ι ρ) (who : ι) (tables : Tables) : Prop :=
  ∃ middle : System ι ρ, start.Run middle ∧ middle.Run now ∧ (middle.stages who).Running ∧
    middle.tables = tables ∧ tables.Grown now.tables

/-- A program has kept its promise so far, and this is its view. -/
structure Follows (cut : Cut) (post : ρ → View → Prop) (start now : System ι ρ) (who : ι)
    (view : View) : Prop where
  keeps : (now.stages who).Keeps cut post view
  grown : view.tables.Grown now.tables
  still : (now.stages who).turn = true → now.tables.orders = view.tables.orders ∧
    now.tables.orderItems = view.tables.orderItems
  added : view.added = now.addedBy who
  met : ∀ tables ∈ view.seen, start.Met now who tables

/-- Every program has kept its promise so far, and the tables have grown by additions only. -/
structure Sane (cut : ι → Cut) (post : ι → ρ → View → Prop) (start now : System ι ρ) : Prop where
  follows : ∀ who, ∃ view, Follows (cut who) (post who) start now who view
  grown : start.tables.Grown now.tables

variable {cut : ι → Cut} {post : ι → ρ → View → Prop} {programs : ι → Program ρ}
  {tables : Tables} {size : Nat} {now : System ι ρ} {who other : ι} {stage : Stage ρ} {deeds : List Deed}

/-- At the beginning nobody has done anything. -/
theorem sane_start
    (keeps : ∀ who (tables : Tables), (programs who).Keeps (cut who) (post who)
      { tables := tables }) :
    Sane cut post (start programs tables size) (start programs tables size) where
  follows who := by
    refine ⟨{ tables := tables },
      { keeps := ⟨rfl, keeps who⟩, grown := ?_, still := ?_, added := rfl, met := ?_ }⟩
    · exact Relation.ReflTransGen.refl
    · exact fun turn => nomatch turn
    · exact fun _ member => nomatch member
  grown := Relation.ReflTransGen.refl

section Moves

variable {start : System ι ρ}

/-- A program that has a result has kept its promise. -/
theorem Follows.post_of_returned {cut : Cut} {post : ρ → View → Prop} {view : View} {result : ρ}
    (follows : Follows cut post start now who view) (returned : (now.stages who).Returned result) :
    post result view := by
  have kept := follows.keeps
  obtain ⟨connection, ended⟩ | ⟨connection, turn, done⟩ := returned
  · rw [ended] at kept
    exact kept.2
  · rw [done] at kept
    exact kept.2.2

/-- What a program has met stays met. -/
theorem Met.step {after : System ι ρ} {state : Tables} (met : start.Met now who state)
    (step : now.Step after) (grown : now.tables.Grown after.tables) :
    start.Met after who state := by
  obtain ⟨middle, before, later, running, same, further⟩ := met
  exact ⟨middle, before, later.tail step, running, same, Relation.ReflTransGen.trans further grown⟩

/-- The program that moves keeps its promise. -/
theorem Follows.moved {cut : Cut} {post : ρ → View → Prop} {view : View}
    (follows : Follows cut post start now who view) (run : start.Run now)
    (moves : Stage.Moves now.tables now.turnTaken now.free (now.stages who) stage deeds) :
    (∃ later, Follows cut post start (now.moved who stage deeds) who later) ∧
      (now.stages who).Adds now.tables deeds := by
  obtain ⟨later, kept, moved⟩ := moves.keeps follows.keeps follows.grown follows.still
  have step : now.Step (now.moved who stage deeds) := ⟨who, stage, deeds, moves, rfl⟩
  refine ⟨⟨later, { keeps := ?_, grown := moved.grown, still := ?_, added := ?_, met := ?_ }⟩,
    moved.adds⟩
  · rw [stages_moved_self]
    exact kept
  · rw [stages_moved_self]
    exact moved.still
  · rw [moved.added_eq, follows.added, addedBy_moved_self]
  · intro state member
    rcases moved.seen state member with old | ⟨rfl, running⟩
    · exact (follows.met state old).step step moved.adds.grown
    · exact ⟨now, run, Relation.ReflTransGen.single step, running, rfl, moved.adds.grown⟩

/-- The other programs are not disturbed. -/
theorem Follows.frame {cut : Cut} {post : ρ → View → Prop} {view : View}
    (follows : Follows cut post start now other view)
    (different : other ≠ who) (step : now.Step (now.moved who stage deeds))
    (adds : (now.stages who).Adds now.tables deeds)
    (single : (now.stages other).turn = true → (now.stages who).turn = false) :
    Follows cut post start (now.moved who stage deeds) other view where
  keeps := by
    rw [stages_moved_of_ne different]
    exact follows.keeps
  grown := Relation.ReflTransGen.trans follows.grown adds.grown
  still turn := by
    rw [stages_moved_of_ne different] at turn
    obtain ⟨orders, lines⟩ := adds.orders_eq (single turn)
    obtain ⟨orders', lines'⟩ := follows.still turn
    exact ⟨orders.trans orders', lines.trans lines'⟩
  added := follows.added.trans (addedBy_moved_of_ne different).symm
  met state member := (follows.met state member).step step adds.grown

/-- A move of one program leads to a sane state. -/
theorem Sane.moved (sane : Sane cut post start now) (one : now.OneTurn) (run : start.Run now)
    (moves : Stage.Moves now.tables now.turnTaken now.free (now.stages who) stage deeds) :
    Sane cut post start (now.moved who stage deeds) := by
  have step : now.Step (now.moved who stage deeds) := ⟨who, stage, deeds, moves, rfl⟩
  obtain ⟨view, follows⟩ := sane.follows who
  obtain ⟨own, adds⟩ := follows.moved run moves
  refine { follows := fun other => ?_, grown := Relation.ReflTransGen.trans sane.grown adds.grown }
  by_cases same : other = who
  · subst same
    exact own
  · obtain ⟨view, follows⟩ := sane.follows other
    exact ⟨view, follows.frame same step adds fun turn => (one.waits moves same turn).1⟩

end Moves

/-- Every reachable state is sane. -/
theorem Run.sane
    (keeps : ∀ who (tables : Tables), (programs who).Keeps (cut who) (post who)
      { tables := tables })
    (run : (start programs tables size).Run now) :
    Sane cut post (start programs tables size) now := by
  induction run with
  | refl => exact sane_start keeps
  | tail before step ih =>
    obtain ⟨who, stage, deeds, moves, rfl⟩ := step
    exact ih.moved (Run.oneTurn before) before moves

end System

end Storefront
