/-
**Making orders beside each other.**

Any number of calls that make orders run beside each other and beside other calls.  One of them at a
time has the turn, what they send themselves stands in blocks, each of them adds the order that it
returns and otherwise nothing, and the orders in the end are those of running the successful calls one
after another, in the order in which they have committed.

The blocks are those of the calls and not of their connections.  A call that fails or is dropped gives
its turn back before the transaction that it leaves has been rolled back, and the next one may have
begun when that is done (`rollback_between`).

That calls run one after another is said by `Serial`: each of them is run alone, with nothing going
wrong.

Main statements:

* `StoreCall.addedAsReturned`: what a call that makes an order has added;
* `System.Run.early_of_returned`: nothing is sent late for a call that has returned an order;
* `System.Made.moved`: one move keeps the list of the orders that have been made;
* `orders_made_in_turn`.
-/

import Storefront.Proofs.Order.Replay
import Storefront.Proofs.Program.Schedule
import Storefront.Proofs.Store.Turnless

namespace Storefront

/-! ### One call that makes an order -/

namespace StoreCall

/-- A call that makes an order needs the turn. -/
theorem needsTurn {call : StoreCall} (makes : call.makesOrder = true) :
    NeedsTurn call.cut := by
  cases call with
  | createOrder input =>
    exact fun statement view kept => kept.1
  | _ => cases makes

/-- A call has added the order that it has returned, which is the one that was asked for, or it has
returned none and has added nothing. -/
def AddedAsReturned (call : StoreCall) (stage : Stage StoreAnswer) (added : Tables) : Prop :=
  (∃ wish order, call = .createOrder (some wish) ∧ stage.Returned (.order (.ok order)) ∧
      order.MadeFrom wish ∧ added = order.kept) ∨
    (∀ order, ¬ stage.Returned (.order (.ok order))) ∧ added = .empty

theorem addedAsReturned_of_post [Collation] {input : Option NewOrder} {stage : Stage StoreAnswer}
    {answer : StoreAnswer} {view : View} (kept : (createOrder input).post answer view)
    (returned : stage.Returned answer) :
    (createOrder input).AddedAsReturned stage view.added := by
  cases answer with
  | order result =>
    cases result with
    | ok order =>
      cases input with
      | none => exact nomatch kept.1
      | some wish =>
        obtain ⟨_, made, whole, _⟩ := kept
        exact Or.inl ⟨wish, order, rfl, returned, made, whole⟩
    | error cause =>
      refine Or.inr ⟨?_, ?_⟩
      · intro order given
        cases returned.unique given
      · cases input with
        | none => exact kept.2.2
        | some wish => exact kept.2
  | _ => cases kept

/-- What a call that makes an order has added, unless it has been dropped after its `COMMIT` was
sent. -/
theorem addedAsReturned [Collation] {call : StoreCall} {stage : Stage StoreAnswer} {view : View}
    (makes : call.makesOrder = true) (kept : stage.Keeps call.cut call.post view)
    (heard : ∀ leaving, stage ≠ .dropped (some ⟨.commit, []⟩) leaving) :
    call.AddedAsReturned stage view.added := by
  cases call with
  | createOrder input =>
    cases stage with
    | ready program =>
      refine Or.inr ⟨fun order returned => ?_, by rw [kept.1]⟩
      obtain ⟨_, impossible⟩ | ⟨_, _, impossible⟩ := returned <;> cases impossible
    | running program connection turn =>
      obtain ⟨_, _, goes⟩ := kept
      cases program with
      | done answer => exact addedAsReturned_of_post goes (Or.inr ⟨connection, turn, rfl⟩)
      | ask call next =>
        refine Or.inr ⟨fun order returned => ?_, ((goes view.tables view.permits_refl).standing).1⟩
        obtain ⟨_, impossible⟩ | ⟨_, _, impossible⟩ := returned <;> cases impossible
    | ended answer connection => exact addedAsReturned_of_post kept.2 (Or.inl ⟨connection, rfl⟩)
    | dropped unheard connection =>
      refine Or.inr ⟨fun order returned => ?_, ?_⟩
      · obtain ⟨_, impossible⟩ | ⟨_, _, impossible⟩ := returned <;> cases impossible
      · cases unheard with
        | none => exact kept.1
        | some statement =>
          refine kept.2 fun commit => heard connection ?_
          rw [commit]
  | _ => cases makes

/-- The connection of a call that has returned an order has no transaction to be rolled back. -/
theorem closing_of_returned [Collation] {call : StoreCall} {order : Order} {connection : Connection}
    {view : View} (makes : call.makesOrder = true)
    (kept : (Stage.ended (.order (.ok order)) (some connection)).Keeps call.cut call.post view) :
    connection.closing = [] := by
  obtain ⟨same, kept⟩ := kept
  cases call with
  | createOrder input =>
    cases input with
    | none => exact nomatch kept.1
    | some wish =>
      have idle : view.connection = some {} := kept.2.2.2
      have fresh : some connection = some {} := (same.resolve_left nofun).trans idle
      rw [Option.some.inj fresh]
      rfl
  | _ => cases makes

end StoreCall

/-- **What is sent late is not sent for orders.** Nothing is sent for a call after it has returned an
order. -/
theorem System.Run.early_of_returned [Collation] {ι : Type} [DecidableEq ι] {calls : ι → StoreCall}
    {tables : Tables} {size : Nat} {now : System ι StoreAnswer} {who : ι} {order : Order}
    (run : (System.ofCalls calls tables size).Run now) (makes : (calls who).makesOrder = true)
    (returned : (now.stages who).Returned (.order (.ok order))) :
    ∀ entry ∈ now.entriesOf who, entry.late = false := by
  induction run with
  | refl => exact nofun
  | @tail now _ before step ih =>
    obtain ⟨mover, stage, deeds, moves, rfl⟩ := step
    by_cases same : who = mover
    · subst same
      rw [System.stages_moved_self] at returned
      intro entry member
      rw [System.entriesOf_moved_self] at member
      cases atEnd : (now.stages who).isOver with
      | false =>
        rw [atEnd] at member
        rcases List.mem_append.mp member with own | new
        · exact (System.Run.parted before who).early (Or.inl atEnd) entry own
        · obtain ⟨deed, _, rfl⟩ := List.mem_map.mp new
          rfl
      | true =>
        obtain ⟨leaves, _⟩ := moves.closes_of_isOver atEnd
        have silent : deeds = [] := by
          obtain ⟨view, follows⟩ := (System.sane_ofCalls before).follows who
          have kept := follows.keeps
          generalize now.stages who = standing at moves kept atEnd
          cases moves with
          | closesEnded =>
            obtain ⟨_, done⟩ | ⟨_, _, impossible⟩ := returned
            · cases done
              exact StoreCall.closing_of_returned makes kept
            · cases impossible
          | closesDropped =>
            obtain ⟨_, impossible⟩ | ⟨_, _, impossible⟩ := returned
            · cases impossible
            · cases impossible
          | _ => cases atEnd
        rw [silent, List.map_nil, List.append_nil] at member
        exact (System.Run.parted before who).early (Or.inr leaves) entry member
    · rw [System.stages_moved_of_ne same] at returned
      rw [System.entriesOf_moved_of_ne same]
      exact ih returned

/-! ### Calls one after another -/

/-- Is this the end of a transaction that keeps what has been done in it? -/
def Query.commits : Query → Bool
  | .commit => true
  | _ => false

/-- The tables with the orders of others. -/
def Tables.withOrdersOf (tables others : Tables) : Tables :=
  { tables with orders := others.orders, orderItems := others.orderItems }

theorem Tables.orders_sum (all : List Tables) : (sum all).orders = all.flatMap Tables.orders := by
  induction all with
  | nil => rfl
  | cons first rest ih => rw [sum, orders_append, ih, List.flatMap_cons]

/-- Calls that are run one after another, each of them alone in a healthy environment, and the
orders that they return lead from the first tables to the last ones. -/
inductive Serial [Collation] {ι : Type} (calls : ι → StoreCall) (first : Tables) :
    List (ι × Order) → Tables → Prop
  | nil : Serial calls first [] first
  | snoc {done : List (ι × Order)} {before : Tables} {who : ι} {order : Order}
      {environment : Environment} {after : Machine} (earlier : Serial calls first done before)
      (healthy : environment.Healthy)
      (performed : Machine.perform environment none ((calls who).action none) { tables := before } =
        (after, .finished (.order (.ok order)))) :
      Serial calls first (done ++ [(who, order)]) after.tables

/-- An order fits if it may be added. -/
theorem Order.FitsIn.of_addition {order : Order} {tables rows : Tables}
    (addition : Addition tables rows) (same : rows = order.kept) : order.FitsIn tables := by
  cases addition with
  | account account tidy fits => cases congrArg Tables.orders same
  | item item fits => cases congrArg Tables.orders same
  | order other numbered fits =>
    have header : other.header = order.header := List.singleton_inj.mp (congrArg Tables.orders same)
    have lines : other.items.map OrderLine.kept = order.items.map OrderLine.kept :=
      congrArg Tables.orderItems same
    exact ⟨header ▸ fits.header, header ▸ lines ▸ fits.lines⟩

/-- A call that has made an order makes it again after others, when it runs alone. -/
theorem Serial.made [Collation] {ι : Type} {calls : ι → StoreCall} {first now : Tables}
    {done : List (ι × Order)} {who : ι} {wish : NewOrder} {order : Order}
    (serial : Serial calls first done now) (call : calls who = .createOrder (some wish))
    (made : order.MadeFrom wish) (fits : order.FitsIn now) :
    Serial calls first (done ++ [(who, order)]) (now ++ order.kept) := by
  obtain ⟨environment, after, healthy, performed, grown⟩ :=
    OrderStore.create_again made fits StoreAnswer.order
  rw [← grown]
  refine serial.snoc healthy ?_
  rw [call]
  exact performed

namespace System

variable {ι : Type}

/-- The calls that have committed orders, in this order. -/
def committers (system : System ι StoreAnswer) : List ι :=
  (system.log.filter fun entry => entry.statement.query.commits && !entry.added.orders.isEmpty).map
    Entry.who

/-- No call that makes an order has been dropped after its `COMMIT` was sent and before the answer
was heard. -/
def Heard (calls : ι → StoreCall) (system : System ι StoreAnswer) : Prop :=
  ∀ who, (calls who).makesOrder = true →
    ∀ leaving, system.stages who ≠ .dropped (some ⟨.commit, []⟩) leaving

/-- These orders have been made by these calls, which could have run one after another. -/
structure Made [Collation] (calls : ι → StoreCall) (tables : Tables) (system : System ι StoreAnswer)
    (creations : List (ι × Order)) : Prop where
  committed : creations.map Prod.fst = system.committers
  once : (creations.map Prod.fst).Nodup
  returned : ∀ who order, (who, order) ∈ creations ↔
    (calls who).makesOrder = true ∧ (system.stages who).Returned (.order (.ok order))
  serial : ∀ later : Tables, system.tables.accounts ⊆ later.accounts →
    system.tables.items ⊆ later.items →
    Serial calls (later.withOrdersOf tables) creations (later.withOrdersOf system.tables)

section Moved

variable {calls : ι → StoreCall} {tables : Tables} {now after : System ι StoreAnswer}
  {creations : List (ι × Order)} {who : ι} {stage : Stage StoreAnswer} {deeds : List Deed}

/-- Nothing changes for the orders that have been made if no order is added and no call that makes
one returns. -/
theorem Made.unchanged [Collation] (made : now.Made calls tables creations)
    (committers : after.committers = now.committers)
    (returned : ∀ who order, (calls who).makesOrder = true →
      ((after.stages who).Returned (.order (.ok order)) ↔
        (now.stages who).Returned (.order (.ok order))))
    (orders : after.tables.orders = now.tables.orders)
    (lines : after.tables.orderItems = now.tables.orderItems)
    (accounts : now.tables.accounts ⊆ after.tables.accounts)
    (items : now.tables.items ⊆ after.tables.items) :
    after.Made calls tables creations where
  committed := made.committed.trans committers.symm
  once := made.once
  returned who order := by
    rw [made.returned]
    exact and_congr_right fun makes => (returned who order makes).symm
  serial later moreAccounts moreItems := by
    have same : later.withOrdersOf after.tables = later.withOrdersOf now.tables := by
      unfold Tables.withOrdersOf
      rw [orders, lines]
    rw [same]
    exact made.serial later (List.Subset.trans accounts moreAccounts)
      (List.Subset.trans items moreItems)

variable [DecidableEq ι]

theorem committers_moved :
    (now.moved who stage deeds).committers = now.committers ++
      (deeds.filter fun deed => deed.statement.query.commits && !deed.added.orders.isEmpty).map
        fun _ => who := by
  unfold committers moved
  dsimp only
  rw [List.filter_append, List.map_append, List.filter_map, List.map_map]
  rfl

/-- A move that adds no orders commits none. -/
theorem committers_moved_of_orders (unordered : (Tables.sum (deeds.map Deed.added)).orders = []) :
    (now.moved who stage deeds).committers = now.committers := by
  rw [Tables.orders_sum, List.flatMap_eq_nil_iff] at unordered
  have nothing :
      (deeds.filter fun deed => deed.statement.query.commits && !deed.added.orders.isEmpty) =
        [] := by
    rw [List.filter_eq_nil_iff]
    intro deed member
    simp [unordered deed.added (List.mem_map_of_mem member)]
  rw [committers_moved, nothing, List.map_nil, List.append_nil]

/-- Whatever comes later, an answer that has not been heard is not heard any more. -/
theorem Heard.of_moved [Collation] (heard : (now.moved who stage deeds).Heard calls)
    (moves : Stage.Moves now.tables now.turnTaken now.free (now.stages who) stage deeds) :
    now.Heard calls := by
  intro other makes leaving dropped
  by_cases same : other = who
  · subst same
    rw [dropped] at moves
    cases moves with
    | closesDropped => exact heard other makes none stages_moved_self
  · exact heard other makes leaving ((stages_moved_of_ne same).trans dropped)

/-- The order that a move adds fits, and it is committed by the move. -/
theorem committed_of_adds {order : Order} (adds : (now.stages who).Adds now.tables deeds)
    (grown : Tables.sum (deeds.map Deed.added) = order.kept) :
    order.FitsIn now.tables ∧ (now.moved who stage deeds).committers = now.committers ++ [who] := by
  rcases adds with silent | ⟨deed, rfl, addition, rule⟩
  · cases congrArg Tables.orders (silent.sum.symm.trans grown)
  · rw [Tables.sum_singleton] at grown
    have orders : deed.added.orders = [order.header] := congrArg Tables.orders grown
    rcases rule with ⟨unordered, _⟩ | ⟨_, commit⟩
    · rw [orders] at unordered
      cases unordered
    · refine ⟨.of_addition addition grown, ?_⟩
      rw [committers_moved, List.filter_cons, commit, orders]
      rfl

/-- A move that adds no orders, and by which no call that makes one returns, changes nothing for
those that have been made. -/
theorem Made.quiet [Collation] (made : now.Made calls tables creations)
    (orders : (now.tables ++ .sum (deeds.map Deed.added)).orders = now.tables.orders)
    (lines : (now.tables ++ .sum (deeds.map Deed.added)).orderItems = now.tables.orderItems)
    (returned : (calls who).makesOrder = true → ∀ order,
      stage.Returned (.order (.ok order)) ↔ (now.stages who).Returned (.order (.ok order))) :
    (now.moved who stage deeds).Made calls tables creations := by
  refine made.unchanged (committers_moved_of_orders ?_) ?_ orders lines
    (List.subset_append_left _ _) (List.subset_append_left _ _)
  · exact List.self_eq_append_right.mp orders.symm
  · intro other order makes
    by_cases same : other = who
    · subst same
      rw [stages_moved_self]
      exact returned makes order
    · rw [stages_moved_of_ne same]

/-- A move that adds an order, which the call returns, puts it behind those that have been made. -/
theorem Made.commit [Collation] {wish : NewOrder} {order : Order}
    (made : now.Made calls tables creations) (call : calls who = .createOrder (some wish))
    (wished : order.MadeFrom wish)
    (fits : order.FitsIn now.tables)
    (fresh : ∀ other, ¬ (now.stages who).Returned (.order (.ok other)))
    (returned : stage.Returned (.order (.ok order)))
    (grown : Tables.sum (deeds.map Deed.added) = order.kept)
    (committed : (now.moved who stage deeds).committers = now.committers ++ [who]) :
    (now.moved who stage deeds).Made calls tables (creations ++ [(who, order)]) where
  committed := by rw [committed, List.map_append, made.committed, List.map_singleton]
  once := by
    have new : who ∉ creations.map Prod.fst := by
      intro before
      obtain ⟨⟨_, other⟩, member, rfl⟩ := List.mem_map.mp before
      exact fresh other ((made.returned _ other).mp member).2
    rw [List.map_append, List.map_singleton, List.nodup_append]
    refine ⟨made.once, List.pairwise_singleton _ who, ?_⟩
    rintro first before second member rfl
    obtain rfl := List.mem_singleton.mp member
    exact new before
  returned other that := by
    rw [List.mem_append, List.mem_singleton, Prod.mk.injEq, made.returned]
    by_cases same : other = who
    · subst same
      rw [stages_moved_self]
      refine ⟨?_, fun given => Or.inr ⟨rfl, ?_⟩⟩
      · rintro (⟨_, before⟩ | ⟨_, rfl⟩)
        · exact absurd before (fresh that)
        · exact ⟨by rw [call]; rfl, returned⟩
      · cases given.2.unique returned
        rfl
    · rw [stages_moved_of_ne same]
      exact ⟨fun either => either.resolve_right fun both => same both.1, Or.inl⟩
  serial later moreAccounts moreItems := by
    have whole : (now.moved who stage deeds).tables = now.tables ++ order.kept :=
      congrArg (now.tables ++ ·) grown
    rw [whole] at moreAccounts moreItems ⊢
    rw [Tables.accounts_append, show order.kept.accounts = [] from rfl,
      List.append_nil] at moreAccounts
    rw [Tables.items_append, show order.kept.items = [] from rfl, List.append_nil] at moreItems
    have still : order.FitsIn (later.withOrdersOf now.tables) := by
      refine fits.of_more ?_ rfl rfl
      intro table row member
      cases table with
      | accounts => exact moreAccounts member
      | items => exact moreItems member
      | orders => exact member
      | orderItems => exact member
    have step := (made.serial later moreAccounts moreItems).made call wished still
    have same : later.withOrdersOf now.tables ++ order.kept =
        later.withOrdersOf (now.tables ++ order.kept) := by
      simp [Tables.withOrdersOf, Tables.append_def, Order.kept]
    exact same ▸ step

/-- One move keeps the list of the orders that have been made, or an order is put behind them. -/
theorem Made.moved [Collation] {size : Nat} (made : now.Made calls tables creations)
    (run : (ofCalls calls tables size).Run now)
    (moves : Stage.Moves now.tables now.turnTaken now.free (now.stages who) stage deeds)
    (heard : (now.moved who stage deeds).Heard calls) :
    ∃ creations, (now.moved who stage deeds).Made calls tables creations := by
  obtain ⟨view, follows⟩ := (sane_ofCalls run).follows who
  obtain ⟨⟨later, follows'⟩, adds⟩ := follows.moved run moves
  have added : later.added = view.added ++ .sum (deeds.map Deed.added) := by
    rw [follows'.added, addedBy_moved_self, follows.added]
  cases makes : (calls who).makesOrder with
  | false =>
    obtain ⟨orders, lines⟩ := adds.orders_eq (run.turnless (StoreCall.turnless_program makes))
    refine ⟨creations, made.quiet orders lines fun makes' => ?_⟩
    rw [makes] at makes'
    cases makes'
  | true =>
    have before := StoreCall.addedAsReturned makes follows.keeps (heard.of_moved moves who makes)
    have after := StoreCall.addedAsReturned makes follows'.keeps (heard who makes)
    rw [stages_moved_self] at after
    have quiet : Tables.sum (deeds.map Deed.added) = .empty →
        (∀ order, stage.Returned (.order (.ok order)) ↔
          (now.stages who).Returned (.order (.ok order))) →
        ∃ creations, (now.moved who stage deeds).Made calls tables creations := by
      intro nothing same
      refine ⟨creations, made.quiet ?_ ?_ fun _ => same⟩
      · rw [nothing, Tables.append_empty]
      · rw [nothing, Tables.append_empty]
    rcases after with ⟨wish, order, call, returned, wished, whole⟩ | ⟨failed, nothing⟩
    · rcases before with ⟨_, earlier, _, returned', _, whole'⟩ | ⟨fresh, nothing⟩
      · -- the call had returned its order before
        obtain rfl : earlier = order := by
          cases (returned'.moves moves).unique returned
          rfl
        have same : view.added ++ .sum (deeds.map Deed.added) = view.added := by
          rw [← added, whole, whole']
        refine quiet (Tables.append_eq_self_iff.mp same) fun other =>
          ⟨fun given => ?_, fun given => given.moves moves⟩
        cases given.unique returned
        exact returned'
      · -- the call commits its order
        have grown : Tables.sum (deeds.map Deed.added) = order.kept := by
          rw [← whole, added, nothing, Tables.empty_append]
        obtain ⟨fits, committed⟩ := committed_of_adds adds grown
        exact ⟨_, made.commit call wished fits fresh returned grown committed⟩
    · -- the call has returned no order
      refine quiet ?_ fun order => ⟨fun given => absurd given (failed order), fun given => ?_⟩
      · exact Tables.eq_empty_of_append (added.symm.trans nothing)
      · exact absurd (given.moves moves) (failed order)

end Moved

/-- However calls are run beside each other, there is a list of the orders that have been made. -/
theorem Run.made [Collation] [DecidableEq ι] {calls : ι → StoreCall} {tables : Tables} {size : Nat}
    {now : System ι StoreAnswer} (run : (ofCalls calls tables size).Run now) (heard : now.Heard calls) :
    ∃ creations, now.Made calls tables creations := by
  induction run with
  | refl =>
    have once : ([] : List ι).Nodup := List.nodup_nil
    refine ⟨[], { committed := rfl, once, returned := ?_, serial := fun _ _ _ => .nil }⟩
    intro who order
    refine ⟨nofun, fun given => ?_⟩
    obtain ⟨_, impossible⟩ | ⟨_, _, impossible⟩ := given.2 <;> cases impossible
  | tail before step ih =>
    obtain ⟨who, stage, deeds, moves, rfl⟩ := step
    obtain ⟨creations, made⟩ := ih (heard.of_moved moves)
    exact made.moved before moves heard

end System

section Making

variable {ι : Type} [DecidableEq ι] {calls : ι → StoreCall} {tables : Tables} {size : Nat}
  {finish : System ι StoreAnswer}

/-- **Orders are made in turn.** However calls are run beside each other: one call at most has the
turn to make an order; between two statements that a call that makes an order sends itself there is none
of another such call; what is sent for such a call when it has come to its end, and perhaps another one
has the turn, is at most one `ROLLBACK`, which adds nothing, and none if it has returned an order; all
that is new has been added by the statements of the log, and of these a call that makes an order has
added exactly the order that it has returned, and nothing if it has returned none; and the orders are
those of running the successful calls one after another, in the order in which they have committed. -/
theorem orders_made_in_turn [Collation] (run : (System.ofCalls calls tables size).Run finish)
    (heard : finish.Heard calls) :
    (∀ first second, (finish.stages first).turn = true → (finish.stages second).turn = true →
      first = second) ∧
      (∀ first second,
        [first, second, first].Sublist (finish.senders fun who => (calls who).makesOrder) →
        first = second) ∧
      (∀ who, (calls who).makesOrder = true → ∃ own late, finish.entriesOf who = own ++ late ∧
        (∀ entry ∈ own, entry.late = false) ∧ late.length ≤ 1 ∧
        (∀ entry ∈ late, entry.late = true ∧ entry.statement = ⟨.rollback, []⟩ ∧
          entry.added = .empty) ∧
        ((∃ order, (finish.stages who).Returned (.order (.ok order))) → late = [])) ∧
      finish.tables = tables ++ .sum (finish.log.map fun entry => entry.added) ∧
      (∀ who, (calls who).makesOrder = true →
        (calls who).AddedAsReturned (finish.stages who) (finish.addedBy who)) ∧
      ∃ creations : List (ι × Order),
        creations.map Prod.fst = finish.committers ∧ (creations.map Prod.fst).Nodup ∧
        (∀ who order, (who, order) ∈ creations ↔
          (calls who).makesOrder = true ∧ (finish.stages who).Returned (.order (.ok order))) ∧
        Serial calls (finish.tables.withOrdersOf tables) creations finish.tables := by
  have sane := System.sane_ofCalls run
  have blocks : finish.Blocks fun who => (calls who).makesOrder :=
    run.blocks (fun who tables => (calls who).program_keeps tables) fun who makes =>
      StoreCall.needsTurn makes
  obtain ⟨creations, made⟩ := run.made heard
  refine ⟨run.oneTurn.single, blocks.apart, ?_, run.tables_eq, ?_, creations, made.committed, made.once,
    made.returned, ?_⟩
  · intro who makes
    obtain ⟨own, late, parts, early, one, rollback⟩ := (run.parted who).parts
    refine ⟨own, late, parts, early, one, rollback, fun ⟨order, returned⟩ => ?_⟩
    refine List.eq_nil_iff_forall_not_mem.mpr fun entry member => ?_
    have punctual : entry.late = false :=
      run.early_of_returned makes returned entry (parts ▸ List.mem_append_right own member)
    exact Bool.noConfusion (punctual.symm.trans (rollback entry member).1)
  · intro who makes
    obtain ⟨view, follows⟩ := sane.follows who
    exact follows.added ▸ StoreCall.addedAsReturned makes follows.keeps (heard who makes)
  · exact made.serial finish.tables (List.Subset.refl _) (List.Subset.refl _)

end Making

/-- Two calls that make the same order, and one that makes an account. -/
def StoreCall.rivals : Option Bool → StoreCall
  | some _ => .createOrder (some .sample)
  | none => .createAccount (some ⟨"grace@example.org", none, none, none, .female⟩)

/-- While the first call is making its order the second one begins to wait, and the account is
made. -/
def Beat.rivals : List (Beat (Option Bool)) :=
  (List.range 8).map (fun count => ⟨some false, 10 + count⟩) ++ [⟨some true, 0⟩] ++
    (List.range 7).map (fun count => ⟨none, 20 + count⟩) ++
    (List.range 7).map (fun count => ⟨some false, 30 + count⟩) ++
    (List.range 15).map (fun count => ⟨some true, 40 + count⟩)

theorem orders_made_in_turn_rivals :
    ∃ (finish : System (Option Bool) StoreAnswer) (creations : List (Option Bool × Order)),
      finish.tables.accounts.length = 2 ∧ finish.tables.orders.length = 2 ∧
        creations.map Prod.fst = [some false, some true] ∧
        Serial StoreCall.rivals (finish.tables.withOrdersOf .sample) creations finish.tables := by
  have played : ∃ finish,
      (System.ofCalls StoreCall.rivals .sample 2).play? Beat.rivals = some finish ∧
      finish.committers = [some false, some true] ∧ finish.tables.accounts.length = 2 ∧
      finish.tables.orders.length = 2 ∧
      ∀ who, ∃ answer leaving, finish.stages who = .ended answer leaving := by
    refine ⟨_, rfl, rfl, rfl, rfl, fun who => ?_⟩
    rcases who with _ | _ | _ <;> exact ⟨_, _, rfl⟩
  obtain ⟨finish, played, committed, accounts, orders, ended⟩ := played
  have heard : finish.Heard StoreCall.rivals := by
    intro who _ leaving dropped
    obtain ⟨answer, _, same⟩ := ended who
    rw [same] at dropped
    cases dropped
  obtain ⟨_, _, _, _, _, creations, same, _, _, serial⟩ :=
    orders_made_in_turn (System.play?_run played) heard
  exact ⟨finish, creations, accounts, orders, same.trans committed, serial⟩

/-- The first call makes its order up to the `COMMIT`. -/
def Beat.uncommitted : List (Beat (Option Bool)) :=
  (List.range 13).map fun count => ⟨some false, 10 + count⟩

/-- The first call comes to its end, and the second one begins its transaction.  Then the connection of
the first one comes back, and the second one makes its order. -/
def Beat.overtaking : List (Beat (Option Bool)) :=
  [⟨some false, 0⟩] ++ (List.range 6).map (fun count => ⟨some true, 40 + count⟩) ++
    [⟨some false, 0⟩] ++ (List.range 10).map (fun count => ⟨some true, 50 + count⟩)

/-- **The statements of two calls that make orders may interleave.** The server refuses the `COMMIT` of
the first call.  The second one takes the turn and begins; only then the transaction of the first one is
rolled back, and the second one goes on to its own `COMMIT`. -/
theorem rollback_between :
    ∃ finish : System (Option Bool) StoreAnswer, (System.ofCalls StoreCall.rivals .sample 2).Run finish ∧
      finish.Heard StoreCall.rivals ∧
      [(some false, .begin), (some false, .commit), (some true, .begin), (some false, .rollback),
        (some true, .commit)].Sublist
          (finish.log.map fun entry => (entry.who, entry.statement.query)) ∧
      ¬ ∀ first second, [first, second, first].Sublist
        ((finish.log.map Entry.who).filter fun who => (StoreCall.rivals who).makesOrder) →
          first = second := by
  have played : ∃ middle next connection finish,
      (System.ofCalls StoreCall.rivals .sample 2).play? Beat.uncommitted = some middle ∧
      middle.stages (some false) = .running (.ask (.send ⟨.commit, []⟩) next) (some connection) true ∧
      (middle.moved (some false) (.running (next (.error (.refused ⟨some "40001", none, "restart"⟩)))
        (some connection.failed) true) [⟨⟨.commit, []⟩, .empty⟩]).play? Beat.overtaking =
          some finish ∧
      (∀ who ≠ none, ∃ answer leaving, finish.stages who = .ended answer leaving) ∧
      [(some false, .begin), (some false, .commit), (some true, .begin), (some false, .rollback),
        (some true, .commit)].Sublist
          (finish.log.map fun entry => (entry.who, entry.statement.query)) := by
    refine ⟨_, _, _, _, rfl, rfl, rfl, ?_, ?_⟩
    · intro who other
      rcases who with _ | _ | _
      · exact absurd rfl other
      · exact ⟨_, _, rfl⟩
      · exact ⟨_, _, rfl⟩
    · decide +kernel
  obtain ⟨middle, next, connection, finish, before, asks, after, ended, order⟩ := played
  have refused : middle.Step (middle.moved (some false)
      (.running (next (.error (.refused ⟨some "40001", none, "restart"⟩))) (some connection.failed) true)
      [⟨⟨.commit, []⟩, .empty⟩]) :=
    ⟨some false, _, _, asks ▸ .answered (.refused _), rfl⟩
  have run : (System.ofCalls StoreCall.rivals .sample 2).Run finish :=
    ((System.play?_run before).tail refused).trans (System.play?_run after)
  have heard : finish.Heard StoreCall.rivals := by
    intro who makes leaving dropped
    obtain ⟨_, _, same⟩ := ended who (by rintro rfl; cases makes)
    rw [same] at dropped
    cases dropped
  refine ⟨finish, run, heard, order, fun apart => ?_⟩
  have between : [some false, some false, some true, some false, some true].Sublist
      ((finish.log.map Entry.who).filter fun who => (StoreCall.rivals who).makesOrder) := by
    have among := (order.map Prod.fst).filter fun who => (StoreCall.rivals who).makesOrder
    rwa [List.map_map] at among
  cases apart (some false) (some true) (List.Sublist.trans (by decide) between)

end Storefront
