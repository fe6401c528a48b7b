/-
**Making an order.**

Orders are made by `OrderStore.add`.  Whatever happens to its statements and whatever others do in
the meantime, nothing of the order reaches the tables before its transaction is committed, and then
all of it does (`OrderStore.add_keeps`).

Main statements:

* `keeps_makeLines`: a line is made for each line that is asked for, in order;
* `add_keeps`: an order that is made is what was asked for, and has been added as a whole; a failure
  adds nothing.
-/

import Mathlib.Data.List.Forall2
import Storefront.Proofs.Database.Carried
import Storefront.Proofs.Program.Keeps

namespace Storefront

/-! ### Orders and what they are made from -/

/-- The line that is asked for, made with an identifier of its own at some moment. -/
def OrderLine.MadeFrom (orderId : Uuid) (wish : NewLine × Int) (line : OrderLine) : Prop :=
  ∃ id nanos, line = .register orderId wish.1 wish.2 id (.ofClock nanos)

/-- The order that is asked for, with a line for each line that is asked for, in order. -/
structure Order.MadeFrom (input : NewOrder) (order : Order) : Prop where
  header : ∃ nanos, { order with items := [] } =
    Order.register input.accountId order.id (.ofClock nanos)
  lines : List.Forall₂ (OrderLine.MadeFrom order.id) (Order.numberLines input) order.items

/-- The wish for an order with two lines and an empty one between them. -/
def NewOrder.sample :
    NewOrder := ⟨.numbered 1, [some ⟨.numbered 2, 3⟩, none, some ⟨.numbered 2, 1⟩]⟩

/-- What a line says, apart from its identifier and the moment when it was made. -/
def OrderLine.content (line : OrderLine) : Uuid × NewLine × Int :=
  (line.orderId, ⟨line.itemId, line.quantity⟩, line.position)

theorem OrderLine.content_of_madeFrom {orderId : Uuid} {wishes : List (NewLine × Int)}
    {lines : List OrderLine} (made : List.Forall₂ (MadeFrom orderId) wishes lines) :
    lines.map content = wishes.map fun wish => (orderId, wish) := by
  induction made with
  | nil => rfl
  | cons first _ ih =>
    obtain ⟨id, nanos, rfl⟩ := first
    rw [List.map_cons, List.map_cons, ih]
    rfl

namespace Order.MadeFrom

variable {input : NewOrder} {order : Order}

theorem accountId_eq (made : order.MadeFrom input) : order.accountId = input.accountId := by
  obtain ⟨nanos, same⟩ := made.header
  exact congrArg Order.accountId same

/-- The lines are those that are asked for: their items and quantities, in order. -/
theorem wishes_eq (made : order.MadeFrom input) :
    order.items.map (fun line => (⟨line.itemId, line.quantity⟩ : NewLine)) =
      input.items.filterMap fun line => line := by
  have content := congrArg (List.map fun said : Uuid × NewLine × Int => said.2.1)
    (OrderLine.content_of_madeFrom made.lines)
  rw [List.map_map, List.map_map, numberLines, List.mapIdx_eq_zipIdx_map, List.map_map] at content
  exact content.trans (List.zipIdx_map_fst 0 _)

/-- The lines belong to the order, and their positions count from zero. -/
theorem numbered (made : order.MadeFrom input) : order.Numbered := by
  have content := congrArg (List.map fun said : Uuid × NewLine × Int => (said.1, said.2.2))
    (OrderLine.content_of_madeFrom made.lines)
  rw [List.map_map, List.map_map] at content
  have size : order.items.length = (input.items.filterMap fun line => line).length := by
    rw [← made.lines.length_eq, numberLines, List.length_mapIdx]
  refine Eq.trans content ?_
  rw [size, numberLines]
  apply List.ext_getElem
  · simp
  · intro position _ _
    simp

end Order.MadeFrom

/-! ### The promise -/

namespace OrderStore

/-- Where the making of an order can be dropped: nothing has been added, unless it is dropped after
the statement that commits it, and it has a connection and sends statements only when it has the
turn. -/
def addCut : Cut
  | none, view => view.added = .empty ∧ (view.connection.isSome = true → view.turn = true)
  | some statement, view => view.turn = true ∧ (statement ≠ ⟨.commit, []⟩ → view.added = .empty)

/-- What making an order leads to: the order that was asked for, all of which has been added, and a
connection without a transaction, or a failure that has added nothing. -/
def addPost (input : NewOrder) (result : Except StoreError Order) (view : View) : Prop :=
  view.turn = true ∧
    match result with
    | .ok order => order.MadeFrom input ∧ view.added = order.kept ∧ view.connection = some {}
    | .error _ => view.added = .empty

/-- What a call leads to that may be without an order to be made. -/
def createPost (input : Option NewOrder) (result : Except StoreError Order) (view : View) : Prop :=
  match input with
  | some input => addPost input result view
  | none => result = .error .nilEntity ∧ view.connection = none ∧ view.added = .empty

section Keeps

variable {view : View} {cut : Cut}

/-- A line is made for each line that is asked for, in order. -/
theorem keeps_makeLines [Collation] {orderId : Uuid} {wishes : List (NewLine × Int)}
    {post : Except StoreError (List OrderLine) → View → Prop}
    (standing : ∀ tables, view.Permits tables → cut none (view.on tables))
    (made : ∀ tables lines, view.Permits tables →
      List.Forall₂ (OrderLine.MadeFrom orderId) wishes lines →
      post (.ok lines) (view.on tables)) :
    (makeLines orderId wishes).run.Keeps cut post view := by
  induction wishes generalizing view post with
  | nil => exact made view.tables [] view.permits_refl .nil
  | cons wish rest ih =>
    rw [makeLines, Operation.keeps_bind, Operation.keeps_readClock]
    intro first toFirst
    refine ⟨standing first toFirst, fun nanos => ?_⟩
    rw [Operation.Onwards, Operation.keeps_bind, Operation.keeps_freshId]
    intro second toSecond
    have soFar : view.Permits second := toFirst.trans toSecond
    refine ⟨standing second soFar, fun id => ?_⟩
    rw [Operation.Onwards, Operation.keeps_bind]
    refine ih (fun third toThird => standing third (soFar.trans toThird)) ?_
    intro third lines toThird others
    exact made third (_ :: lines) (soFar.trans toThird) (.cons ⟨id, nanos, rfl⟩ others)

/-- An order is being made: these rows wait in a transaction, and nothing has been added. -/
structure Making (written : Tables) (view : View) : Prop where
  connection : view.connection = some ⟨some { written := written }, true⟩
  turn : view.turn = true
  nothing : view.added = .empty

theorem Making.on {written tables : Tables} (making : Making written view) :
    Making written (view.on tables) := ⟨making.connection, making.turn, making.nothing⟩

/-- A statement while an order is being made, other than the one that commits it. -/
theorem keeps_send_making [Collation] {query : Query} {values : List Cell} {connection : Connection}
    {post : Except StoreError (List Row) → View → Prop} (held : view.connection = some connection)
    (turn : view.turn = true) (nothing : view.added = .empty)
    (unchanged : ∀ tables, (execute tables connection.transaction ⟨query, values⟩).tables = tables)
    (fails : ∀ cause after, after.turn = true → after.added = .empty → post (.error cause) after)
    (carried : ∀ tables after, view.Permits tables → after.tables = tables →
      after.connection =
        some (connection.after ⟨query, values⟩
      (execute tables connection.transaction ⟨query, values⟩)) →
      after.turn = true → after.added = .empty →
      post (((execute tables connection.transaction ⟨query, values⟩).answer.mapError .refused).mapError
        .transaction) after) :
    (Operation.send .transaction query values).run.Keeps addCut post view := by
  refine Operation.keeps_send_of_unchanged held unchanged ?_ ?_ ?_
  · exact fun tables _ => ⟨nothing, fun _ => turn⟩
  · intro tables _ broken
    rw [View.exchanged_empty]
    exact ⟨⟨turn, fun _ => nothing⟩, fun cause => fails _ _ turn nothing⟩
  · intro tables permitted effect found
    subst found
    rw [View.exchanged_empty]
    exact carried tables _ permitted rfl rfl turn nothing

/-- A batch of rows joins those that wait in the transaction. -/
theorem keeps_send_batch [Collation] {written : Tables} {table : Table} {rows : List (List Cell)}
    {post : Except StoreError (List Row) → View → Prop} (making : Making written view)
    (fails : ∀ cause after, after.turn = true → after.added = .empty → post (.error cause) after)
    (carried : ∀ tables after, view.Permits tables → after.tables = tables →
      checkRows (tables ++ written) table (rows.map table.kept) = .ok () →
      Making (written ++ .only (rows.map table.kept) table) after → post (.ok []) after) :
    (Operation.send .transaction (Statement.insert table rows false).query
      (Statement.insert table rows false).values).run.Keeps addCut post view := by
  refine keeps_send_making making.connection making.turn making.nothing
    (fun _ => tables_execute_insert rfl) fails ?_
  intro tables after permitted same connection turn nothing
  change after.connection =
    some (Connection.after _ _ (execute tables _ (Statement.insert table rows false)))
    at connection
  change post
    (((execute tables _ (Statement.insert table rows false)).answer.mapError _).mapError _) after
  cases checked : checkRows (tables ++ written) table (rows.map table.kept) with
  | error report =>
    have refused : execute tables (some { written := written }) (Statement.insert table rows false) =
        .refuse report tables (some { written := written }) := execute_insert_error rfl checked
    rw [refused]
    exact fails _ _ turn nothing
  | ok done =>
    have added : execute tables (some { written := written }) (Statement.insert table rows false) =
        .added table (rows.map table.kept) [] tables (some { written := written }) :=
          execute_insert_ok rfl checked
    rw [added] at connection ⊢
    exact carried tables after permitted same checked ⟨connection, turn, nothing⟩

/-- All lines of an order join what waits in the transaction. -/
theorem keeps_addLines [Collation] {written : Tables} {lines : List OrderLine}
    {post : Except StoreError Unit → View → Prop} (making : Making written view)
    (fails : ∀ cause after, after.turn = true → after.added = .empty → post (.error cause) after)
    (carried : ∀ tables after, view.Permits tables → after.tables = tables →
      checkRows (tables ++ written) .orderItems (lines.map OrderLine.kept) = .ok () →
      Making (written ++ .only (lines.map OrderLine.kept) .orderItems) after →
      post (.ok ()) after) :
    (addLines lines).run.Keeps addCut post view := by
  unfold addLines
  split
  · next empty =>
    have lineless : lines = [] := List.isEmpty_iff.mp empty
    subst lineless
    refine carried view.tables view view.permits_refl rfl checkRows_nil ?_
    rw [show Tables.only (List.map OrderLine.kept []) .orderItems = .empty from rfl,
      Tables.append_empty]
    exact making
  · dsimp only
    rw [Operation.keeps_bind]
    refine keeps_send_batch making fails ?_
    rw [List.map_map]
    exact carried

/-- What fits while a program has the turn still fits after what others do. -/
theorem fitsIn_of_permits {order : Order} {tables : Tables} (fits : order.FitsIn view.tables)
    (turn : view.turn = true) (permitted : view.Permits tables) : order.FitsIn tables := by
  obtain ⟨orders, lines⟩ := permitted.2 turn
  exact fits.of_more (fun table row member => permitted.1.mem_rows member) orders lines

/-- An order all of whose rows wait in the transaction is added as a whole. -/
theorem keeps_commit [Collation] {input : NewOrder} {order : Order} (making : Making order.kept view)
    (made : order.MadeFrom input) (fits : order.FitsIn view.tables) :
    (do Operation.commit .transaction; return order : Operation Order).run.Keeps addCut (addPost input)
      view := by
  unfold Operation.commit
  rw [Operation.keeps_bind, Operation.keeps_bind]
  refine Operation.keeps_send_of_held making.connection ?_ ?_ ?_
  · exact fun tables _ => ⟨making.nothing, fun _ => making.turn⟩
  · intro tables _ broken
    rw [View.exchanged_empty]
    exact ⟨⟨making.turn, fun _ => making.nothing⟩, fun cause => ⟨making.turn, making.nothing⟩⟩
  · intro tables permitted rows effect found added
    have carried : effect = ⟨.ok [], tables ++ order.kept, none⟩ := found.symm
    subst carried
    have whole : rows = order.kept := (Tables.append_left_cancel added).symm
    subst whole
    have fits := fitsIn_of_permits fits making.turn permitted
    refine ⟨Or.inr ⟨.order order made.numbered fits, Or.inr ⟨making.turn, rfl⟩⟩,
      ⟨making.turn, fun other => ?_⟩, ?_⟩
    · exact absurd rfl other
    · exact ⟨making.turn, made,
        (congrArg (· ++ order.kept) making.nothing).trans Tables.empty_append, rfl⟩

/-- Making an order adds it as a whole or not at all. -/
theorem add_keeps [Collation] (input : NewOrder) (tables : Tables) :
    (add input).run.Keeps addCut (addPost input) { tables := tables } := by
  unfold add
  rw [Operation.keeps_bind, Operation.keeps_takeTurn]
  intro _ _
  refine ⟨⟨rfl, nofun⟩, ?_⟩
  rw [Operation.Onwards, Operation.keeps_bind, Operation.keeps_readClock]
  intro _ _
  refine ⟨⟨rfl, nofun⟩, fun nanos => ?_⟩
  rw [Operation.Onwards, Operation.keeps_bind, Operation.keeps_freshId]
  intro _ _
  refine ⟨⟨rfl, nofun⟩, fun id => ?_⟩
  rw [Operation.Onwards]
  dsimp only
  rw [Operation.keeps_bind, Operation.keeps_connect]
  intro _ _
  refine ⟨⟨rfl, fun _ => rfl⟩, ?_, fun _ => ⟨rfl, rfl⟩⟩
  have fails : ∀ {α : Type} {next : α → Operation Order} cause (after : View), after.turn = true →
      after.added = .empty → Operation.Onwards addCut (addPost input) next (.error cause) after :=
    fun _ _ turn nothing => ⟨turn, nothing⟩
  -- the transaction begins
  rw [Operation.Onwards, Operation.keeps_bind]
  refine keeps_send_making rfl rfl rfl (fun _ => rfl) fails ?_
  intro _ begun _ _ connection turn nothing
  change Operation.Onwards _ _ _ (.ok []) begun
  rw [Operation.Onwards, Operation.keeps_bind]
  -- the account is looked up
  refine keeps_send_making connection turn nothing (fun _ => rfl) fails ?_
  intro tables looked _ same connection turn nothing
  have making : Making .empty looked := ⟨connection, turn, nothing⟩
  change Operation.Onwards _ _ _ (.ok _) looked
  rw [Operation.Onwards, Operation.keeps_bind, Operation.keeps_known]
  change Operation.Onwards _ _ _ (.ok _) looked
  rw [Operation.Onwards]
  split
  · rw [Operation.keeps_bind]
    refine keeps_send_batch making fails ?_
    intro tables headed _ same header making
    rw [Operation.Onwards, Operation.keeps_bind]
    refine keeps_makeLines (fun _ _ => ⟨making.nothing, fun _ => making.turn⟩) ?_
    intro between lines toBetween made
    rw [Operation.Onwards, Operation.keeps_bind]
    refine keeps_addLines making.on fails ?_
    intro later complete toLater same' batch complete'
    rw [Tables.append_empty] at header
    rw [Tables.empty_append] at batch complete'
    have permitted : headed.Permits later := toBetween.trans toLater
    obtain ⟨orders, _⟩ := permitted.2 making.turn
    rw [same] at orders
    have fits : Order.FitsIn { Order.register input.accountId id (.ofClock nanos) with items := lines }
        complete.tables := by
      rw [same']
      refine ⟨checkRows_of_more orders (fun _ _ member => permitted.1.mem_rows ?_) header, batch⟩
      rw [same]
      exact member
    have whole : Tables.only [(Order.register input.accountId id (.ofClock nanos)).header] .orders ++
        .only (lines.map OrderLine.kept) .orderItems =
          Order.kept { Order.register input.accountId id (.ofClock nanos) with items := lines } :=
      Order.only_append { Order.register input.accountId id (.ofClock nanos) with items := lines }
    exact keeps_commit (whole ▸ complete') ⟨⟨nanos, rfl⟩, made⟩ fits
  · rw [Operation.keeps_bind]
    refine keeps_send_making making.connection turn nothing (fun _ => rfl) fails ?_
    exact fun _ _ _ _ _ turn nothing => ⟨turn, nothing⟩

end Keeps

end OrderStore

end Storefront
