/-
**Making an order undisturbed.**

An order is drafted from the identifiers and the readings of the clock that come next
(`Order.draft`), and what becomes of the draft is a function of the tables (`OrderStore.addOn`):
without its account there is no order; otherwise it is made unless something forbids its rows, and
then the transaction fails.

In sound tables nothing forbids the rows of an order that is new, whose account and items exist and
whose lines are each about one or more of an item; an item that does not exist forbids them.

Main statements:

* `Order.NewIn.fitsIn_iff`: which new orders fit;
* `OrderStore.addOn_eq_ok_iff`, `OrderStore.exists_addOn_error`: what becomes of a draft;
* `OrderStore.add_solo`: undisturbed, that is what becomes of the call;
* `OrderStore.creates`: in time, and with fresh identifiers, one of three things becomes of it.
-/

import Mathlib.Data.List.Forall2
import Mathlib.Data.List.Nodup
import Storefront.Proofs.Database.Sound
import Storefront.Proofs.Order.Atomicity
import Storefront.Proofs.Program.Endings
import Storefront.Proofs.Store.Reading

namespace Storefront

/-! ### Rows with identifiers -/

/-- Is there a row with the identifier in the table? -/
def Tables.Has (tables : Tables) (table : Table) (id : Uuid) : Prop :=
  ∃ row ∈ tables.rows table, row.get "id" = .uuid id

instance (tables : Tables) (table : Table) (id : Uuid) : Decidable (tables.Has table id) :=
  inferInstanceAs (Decidable (∃ row ∈ tables.rows table, row.get "id" = .uuid id))

/-! ### Drafts -/

/-- The lines that are wished for, made from the identifiers and the readings of the clock from
these counts on. -/
def OrderLine.drafts (id : Nat → Uuid) (clock : Nat → Int) (orderId : Uuid) :
    List (NewLine × Int) → Nat → Nat → List OrderLine
  | [], _, _ => []
  | (line, position) :: rest, ids, readings =>
    .register orderId line position (id ids) (.ofClock (clock readings)) ::
      drafts id clock orderId rest (ids + 1) (readings + 1)

/-- The order that is wished for, made from the identifiers and the readings of the clock from these
counts on. -/
def Order.draft (id : Nat → Uuid) (clock : Nat → Int) (input : NewOrder) (ids readings : Nat) : Order :=
  { register input.accountId (id ids) (.ofClock (clock readings)) with
    items := OrderLine.drafts id clock (id ids) (numberLines input) (ids + 1) (readings + 1) }

section Drafts

variable {id : Nat → Uuid} {clock : Nat → Int}

theorem OrderLine.drafts_madeFrom (orderId : Uuid) (wishes : List (NewLine × Int)) (ids readings : Nat) :
    List.Forall₂ (MadeFrom orderId) wishes (drafts id clock orderId wishes ids readings) := by
  induction wishes generalizing ids readings with
  | nil => exact .nil
  | cons wish rest ih => exact .cons ⟨_, _, rfl⟩ (ih _ _)

/-- The lines have the identifiers that come next. -/
theorem OrderLine.map_id_drafts (orderId : Uuid) (wishes : List (NewLine × Int)) (ids readings : Nat) :
    (drafts id clock orderId wishes ids readings).map OrderLine.id =
      (List.range' ids wishes.length).map id := by
  induction wishes generalizing ids readings with
  | nil => rfl
  | cons wish rest ih =>
    rw [drafts, List.map_cons, ih, List.length_cons, List.range'_succ, List.map_cons]
    rfl

theorem Order.draft_madeFrom (input : NewOrder) (ids readings : Nat) :
    (draft id clock input ids readings).MadeFrom input :=
  ⟨⟨_, rfl⟩, OrderLine.drafts_madeFrom _ _ _ _⟩

end Drafts

/-- The lines of an order are those that are asked for. -/
theorem Order.MadeFrom.mem_iff {input : NewOrder} {order : Order} (made : order.MadeFrom input)
    {wish : NewLine} :
    (∃ line ∈ order.items, ⟨line.itemId, line.quantity⟩ = wish) ↔ some wish ∈ input.items := by
  rw [← List.mem_map, made.wishes_eq, List.mem_filterMap]
  exact ⟨fun ⟨_, member, same⟩ => same ▸ member, fun member => ⟨_, member, rfl⟩⟩

/-! ### What the server lets in -/

theorem sameIn_of_ne {columns : List String} {column : String} {first second : Row}
    (member : column ∈ columns) (differ : first.get column ≠ second.get column) :
    sameIn columns first second = false := by
  rw [sameIn, List.all_eq_false]
  exact ⟨column, member, by simp [differ]⟩

theorem pairwise_of_nodup {columns : List String} {column : String} {rows : List Row}
    (member : column ∈ columns) (distinct : (rows.map fun row => row.get column).Nodup) :
    rows.Pairwise fun earlier later => sameIn columns later earlier = false :=
  (List.pairwise_map.mp distinct).imp fun differ => sameIn_of_ne member differ.symm

/-- No row has an identifier of the order or of one of its lines, and no two lines have the same. -/
structure Order.NewIn (order : Order) (tables : Tables) : Prop where
  header : ¬ tables.Has .orders order.id
  lines : ∀ line ∈ order.items, ¬ tables.Has .orderItems line.id
  distinct : (order.items.map OrderLine.id).Nodup

namespace Order

variable {order : Order} {tables : Tables}

/-- The account of an order that nothing forbids exists. -/
theorem FitsIn.known (fits : order.FitsIn tables) : tables.Has .accounts order.accountId := by
  obtain ⟨account, there, refers⟩ := Tables.exists_of_checkRows (List.mem_singleton_self _) fits.header
    (List.mem_singleton_self _)
  exact ⟨account, there, refers.symm.trans order.header_accountId⟩

/-- The items of an order that nothing forbids exist. -/
theorem FitsIn.stocked (fits : order.FitsIn tables) {line : OrderLine} (member : line ∈ order.items) :
    tables.Has .items line.itemId := by
  obtain ⟨item, there, refers⟩ := Tables.exists_of_checkRows
    (List.mem_cons_of_mem _ (List.mem_singleton_self _)) fits.lines (List.mem_map_of_mem member)
  rw [Tables.rows_append, Tables.rows_only_ne (by decide), List.append_nil] at there
  exact ⟨item, there, refers.symm.trans line.kept_itemId⟩

theorem NewIn.header_fits (new : order.NewIn tables) (known : tables.Has .accounts order.accountId) :
    checkRows tables .orders [order.header] = .ok () := by
  refine checkRows_eq_ok_iff.mpr ⟨Table.checkEach_eq_ok_iff.mpr ⟨?_, ?_⟩, ?_⟩
  · exact fun _ _ => rfl
  · intro key unique
    obtain rfl := List.mem_singleton.mp unique
    refine ⟨fun row member other there => ?_, List.pairwise_singleton _ _⟩
    obtain rfl := List.mem_singleton.mp member
    exact sameIn_of_ne (List.mem_singleton_self _) fun same => new.header ⟨other, there, same.symm⟩
  · intro row member
    obtain rfl := List.mem_singleton.mp member
    refine Table.dangling?_eq_none_iff.mpr fun reference needed => ?_
    obtain rfl := List.mem_singleton.mp needed
    obtain ⟨account, there, named⟩ := known
    exact ⟨account, there, order.header_accountId.trans named.symm⟩

/-- The rows of the lines differ in every unique key, from each other and from the rows before. -/
theorem NewIn.lines_differ (new : order.NewIn tables) (sound : tables.Sound) (numbered : order.Numbered)
    {key : String × List String} (unique : key ∈ Table.orderItems.uniqueKeys) :
    (∀ row ∈ order.items.map OrderLine.kept, ∀ other ∈ tables.orderItems,
      sameIn key.2 row other = false) ∧
    (order.items.map OrderLine.kept).Pairwise fun earlier later => sameIn key.2 later earlier = false := by
  obtain rfl | rfl : key = ("order_items_pkey", ["id"]) ∨
      key = ("uq_order_items_position", ["order_id", "position"]) := by
    simpa [Table.uniqueKeys] using unique
  · refine ⟨fun row member other there => ?_, pairwise_of_nodup List.mem_cons_self ?_⟩
    · obtain ⟨line, inside, rfl⟩ := List.mem_map.mp member
      exact sameIn_of_ne List.mem_cons_self fun same => new.lines line inside ⟨other, there, same.symm⟩
    · have named : (order.items.map OrderLine.kept).map (fun row => row.get "id") =
          (order.items.map OrderLine.id).map Cell.uuid := by
        rw [List.map_map, List.map_map]
        rfl
      rw [named]
      exact List.Nodup.map (fun _ _ => Cell.uuid.inj) new.distinct
  · refine ⟨fun row member other there => ?_,
      pairwise_of_nodup (List.mem_cons_of_mem _ List.mem_cons_self) ?_⟩
    · -- a row of the lines before is of an order before, and that is another one
      obtain ⟨line, inside, rfl⟩ := List.mem_map.mp member
      obtain ⟨owner, placed, refers⟩ := sound.placed other there
      refine sameIn_of_ne List.mem_cons_self fun same => new.header ⟨owner, placed, ?_⟩
      rw [← refers, ← same, OrderLine.kept_orderId, numbered.orderId_eq inside]
    · rw [Tables.positions_kept numbered]
      exact List.Nodup.map (fun _ _ same => Int.ofNat.inj (Cell.integer.inj same)) List.nodup_range

theorem NewIn.lines_fit (new : order.NewIn tables) (sound : tables.Sound) (numbered : order.Numbered)
    (positive : ∀ line ∈ order.items, 1 ≤ line.quantity)
    (stocked : ∀ line ∈ order.items, tables.Has .items line.itemId) :
    checkRows (tables ++ .only [order.header] .orders) .orderItems (order.items.map OrderLine.kept) =
      .ok () := by
  have present : (tables ++ .only [order.header] .orders).rows .orderItems = tables.orderItems := by
    rw [Tables.rows_append, Tables.rows_only_ne (by decide), List.append_nil]
    rfl
  rw [checkRows_eq_ok_iff, present, Table.checkEach_eq_ok_iff]
  refine ⟨⟨fun row member => ?_, fun key unique => new.lines_differ sound numbered unique⟩,
    fun row member => ?_⟩
  · obtain ⟨line, inside, rfl⟩ := List.mem_map.mp member
    have enough : 0 < line.quantity := positive line inside
    rw [Table.violatedBound?, OrderLine.kept_quantity]
    exact if_pos enough
  · obtain ⟨line, inside, rfl⟩ := List.mem_map.mp member
    refine Table.dangling?_eq_none_iff.mpr fun reference needed => ?_
    obtain rfl | rfl : reference = ("order_items_order_id_fkey", "order_id", .orders) ∨
        reference = ("order_items_item_id_fkey", "item_id", .items) := by
      simpa [Table.references] using needed
    · refine ⟨order.header, List.mem_append_right _ (List.mem_singleton_self _), ?_⟩
      rw [OrderLine.kept_orderId, numbered.orderId_eq inside, Order.header_id]
    · obtain ⟨item, there, named⟩ := stocked line inside
      exact ⟨item, List.mem_append_left _ there, named.symm⟩

/-- A new order fits exactly if its account and its items exist. -/
theorem NewIn.fitsIn_iff (new : order.NewIn tables) (sound : tables.Sound) (numbered : order.Numbered)
    (positive : ∀ line ∈ order.items, 1 ≤ line.quantity) :
    order.FitsIn tables ↔
      tables.Has .accounts order.accountId ∧ ∀ line ∈ order.items, tables.Has .items line.itemId :=
  ⟨fun fits => ⟨fits.known, fun _ => fits.stocked⟩, fun ⟨known, stocked⟩ =>
    ⟨new.header_fits known, new.lines_fit sound numbered positive stocked⟩⟩

end Order

/-! ### New identifiers -/

/-- The identifiers that are given out from the one count to the other are different, and no row has
one of them. -/
structure Environment.FreshIn (environment : Environment) (tables : Tables) (first last : Nat) : Prop where
  distinct : environment.Fresh first last
  unused : ∀ count, first ≤ count → count < last → ∀ table, ¬ tables.Has table (environment.id count)

/-- A draft from fresh identifiers is new. -/
theorem Order.draft_newIn {environment : Environment} {tables : Tables} {input : NewOrder}
    {first last ids readings : Nat} (fresh : environment.FreshIn tables first last)
    (started : first ≤ ids) (enough : ids + input.items.length < last) :
    (draft environment.id environment.clock input ids readings).NewIn tables := by
  have size : (numberLines input).length ≤ input.items.length := by
    rw [numberLines, List.length_mapIdx]
    exact List.length_filterMap_le _ _
  have named : (draft environment.id environment.clock input ids readings).items.map OrderLine.id =
      (List.range' (ids + 1) (numberLines input).length).map environment.id :=
    OrderLine.map_id_drafts _ _ _ _
  refine ⟨fresh.unused ids started (by omega) _, fun line member => ?_, ?_⟩
  · obtain ⟨count, counted, same⟩ := List.mem_map.mp (named ▸ List.mem_map_of_mem member)
    rw [List.mem_range'_1] at counted
    exact same ▸ fresh.unused count (by omega) (by omega) _
  · rw [named]
    refine List.Nodup.map_on (fun one here other there same => ?_) List.nodup_range'
    rw [List.mem_range'_1] at here there
    exact fresh.distinct one other (by omega) (by omega) (by omega) (by omega) same

/-! ### What becomes of a draft -/

namespace OrderStore

/-- What becomes of an order that is to be added to these tables. -/
def addOn (order : Order) (tables : Tables) : Except StoreError Order :=
  if tables.Has .accounts order.accountId then
    (do
      checkRows tables .orders [order.header]
      checkRows (tables ++ Tables.only [order.header] .orders) .orderItems
        (order.items.map OrderLine.kept)
      return order).mapError fun report => .transaction (.refused report)
  else .error (.notFound "Account" order.accountId.text)

section AddOn

variable {order made : Order} {tables : Tables}

theorem addOn_of_unknown (unknown : ¬ tables.Has .accounts order.accountId) :
    addOn order tables = .error (.notFound "Account" order.accountId.text) := if_neg unknown

/-- An order that fits is made. -/
theorem addOn_eq_ok_iff : addOn order tables = .ok made ↔ made = order ∧ order.FitsIn tables := by
  by_cases known : tables.Has .accounts order.accountId
  · rw [addOn, if_pos known]
    simp only [mapError_eq_ok_iff, bind_eq_ok_iff]
    constructor
    · rintro ⟨_, header, _, lines, same⟩
      cases same
      exact ⟨rfl, header, lines⟩
    · rintro ⟨rfl, fits⟩
      exact ⟨_, fits.header, _, fits.lines, rfl⟩
  · rw [addOn_of_unknown known]
    exact ⟨nofun, fun ⟨_, fits⟩ => absurd fits.known known⟩

/-- Where an order does not fit though its account exists, the transaction fails. -/
theorem exists_addOn_error (known : tables.Has .accounts order.accountId)
    (misfit : ¬ order.FitsIn tables) : ∃ cause, addOn order tables = .error (.transaction cause) := by
  cases added : addOn order tables with
  | ok made => exact absurd (addOn_eq_ok_iff.mp added).2 misfit
  | error cause =>
    rw [addOn, if_pos known] at added
    obtain ⟨report, _, rfl⟩ := mapError_eq_error_iff.mp added
    exact ⟨_, rfl⟩

end AddOn

section Solo

variable {id : Nat → Uuid} {clock : Nat → Int} {solo : Solo} {written : Tables} {table : Table}
  {rows : List (List Cell)} {lines : List OrderLine}

/-- Undisturbed, the lines are drafted one after another. -/
theorem makeLines_solo [Collation] (orderId : Uuid) (wishes : List (NewLine × Int)) (solo : Solo) :
    (makeLines orderId wishes).run.solo id clock solo =
      (.ok (OrderLine.drafts id clock orderId wishes solo.ids solo.readings),
        { solo with ids := solo.ids + wishes.length, readings := solo.readings + wishes.length }) := by
  induction wishes generalizing solo with
  | nil => rfl
  | cons wish rest ih =>
    rw [makeLines, Operation.solo_bind, Operation.solo_readClock]
    dsimp only
    rw [Operation.solo_bind, Operation.solo_freshId]
    dsimp only
    rw [Operation.solo_bind, ih]
    dsimp only
    rw [Operation.solo_pure, List.length_cons, Nat.add_right_comm solo.ids,
      Nat.add_right_comm solo.readings]
    rfl

/-- The server takes the values of lines. -/
theorem refused?_insert_lines (lines : List OrderLine) :
    (Statement.insert .orderItems (lines.map OrderLine.cells) false).refused? = none := by
  unfold Statement.refused? Statement.insert
  rw [List.findSome?_eq_none_iff]
  intro cell member
  obtain ⟨cells, inside, own⟩ := List.mem_flatten.mp member
  obtain ⟨line, _, rfl⟩ := List.mem_map.mp inside
  unfold OrderLine.cells at own
  simp only [List.mem_cons, List.not_mem_nil, or_false] at own
  rcases own with rfl | rfl | rfl | rfl | rfl | rfl | rfl <;> rfl

variable [Collation]

/-- A batch of rows joins those that wait in the transaction. -/
theorem solo_send_batch {id : Nat → Uuid} {clock : Nat → Int} {solo : Solo} {written : Tables}
    {table : Table} {rows : List (List Cell)}
    (held : solo.connection = some ⟨some { written := written }, true⟩)
    (accepted : (Statement.insert table rows false).refused? = none)
    (fits : checkRows (solo.tables ++ written) table (rows.map table.kept) = .ok ()) :
    (Operation.send .transaction (Statement.insert table rows false).query
      (Statement.insert table rows false).values).run.solo id clock solo =
        (.ok [], { solo with
          connection :=
            some ⟨some { written := written ++ .only (rows.map table.kept) table }, true⟩ }) := by
  have effect : execute solo.tables (some { written := written }) (Statement.insert table rows false) =
      .added table (rows.map table.kept) [] solo.tables (some { written := written }) :=
    execute_insert_ok rfl fits
  refine (Operation.solo_send_of_held held accepted).trans ?_
  change ((((execute solo.tables _ (Statement.insert table rows false)).answer.mapError _).mapError _),
    { solo with
      tables := (execute solo.tables _ (Statement.insert table rows false)).tables
      connection := some (Connection.after _ _
        (execute solo.tables _ (Statement.insert table rows false))) }) = _
  rw [effect]
  rfl

/-- All lines of an order join what waits in the transaction. -/
theorem solo_addLines {id : Nat → Uuid} {clock : Nat → Int} {solo : Solo} {written : Tables}
    {lines : List OrderLine} (held : solo.connection = some ⟨some { written := written }, true⟩)
    (fits : checkRows (solo.tables ++ written) .orderItems (lines.map OrderLine.kept) = .ok ()) :
    (addLines lines).run.solo id clock solo =
      (.ok (), { solo with
        connection := some
          ⟨some { written := written ++ .only (lines.map OrderLine.kept) .orderItems }, true⟩ }) := by
  unfold addLines
  split
  · next empty =>
    obtain rfl := List.isEmpty_iff.mp empty
    rw [show Tables.only (List.map OrderLine.kept []) .orderItems = .empty from rfl,
      Tables.append_empty, ← held]
    rfl
  · dsimp only
    rw [Operation.solo_bind, solo_send_batch held (refused?_insert_lines lines) (by rwa [List.map_map])]
    dsimp only
    rw [Operation.solo_pure, List.map_map]
    rfl

/-- The transaction begins. -/
theorem solo_begin {id : Nat → Uuid} {clock : Nat → Int} {solo : Solo}
    (held : solo.connection = some {}) :
    (Operation.send .transaction .begin []).run.solo id clock solo =
      (.ok [], { solo with connection := some ⟨some {}, true⟩ }) := by
  rw [Operation.solo_send, Solo.send, held]
  rfl

/-- What waits in the transaction is added. -/
theorem solo_commit {id : Nat → Uuid} {clock : Nat → Int} {solo : Solo} {written : Tables}
    (held : solo.connection = some ⟨some { written := written }, true⟩) :
    (Operation.commit .transaction).run.solo id clock solo =
      (.ok (), { solo with tables := solo.tables ++ written, connection := some {} }) := by
  rw [Operation.commit, Operation.solo_bind, Operation.solo_send, Solo.send, held]
  rfl

/-- A batch that something forbids makes the transaction fail. -/
theorem solo_send_batch_error {report : Report}
    (held : solo.connection = some ⟨some { written := written }, true⟩)
    (accepted : (Statement.insert table rows false).refused? = none)
    (forbidden : checkRows (solo.tables ++ written) table (rows.map table.kept) = .error report) :
    ((Operation.send .transaction (Statement.insert table rows false).query
      (Statement.insert table rows false).values).run.solo id clock solo).1 =
        .error (.transaction (.refused report)) := by
  have effect : execute solo.tables (some { written := written }) (Statement.insert table rows false) =
      .refuse report solo.tables (some { written := written }) :=
    execute_insert_error rfl forbidden
  refine (congrArg Prod.fst (Operation.solo_send_of_held held accepted)).trans ?_
  change ((execute solo.tables _ (Statement.insert table rows false)).answer.mapError _).mapError _ = _
  rw [effect]
  rfl

/-- Lines that something forbids make the transaction fail. -/
theorem solo_addLines_error {report : Report}
    (held : solo.connection = some ⟨some { written := written }, true⟩)
    (forbidden : checkRows (solo.tables ++ written) .orderItems (lines.map OrderLine.kept) =
      .error report) :
    ((addLines lines).run.solo id clock solo).1 = .error (.transaction (.refused report)) := by
  unfold addLines
  split
  · next empty =>
    obtain rfl := List.isEmpty_iff.mp empty
    cases checkRows_nil.symm.trans forbidden
  · dsimp only
    refine Operation.solo_bind_error (solo_send_batch_error held (refused?_insert_lines lines) ?_)
    rwa [List.map_map]

/-- The account is looked up. -/
theorem solo_lookUp {accountId : Uuid} (held : solo.connection = some ⟨some {}, true⟩) :
    (Operation.send .transaction (.exists .accounts (.equals "id" 1))
        [.uuid accountId]).run.solo id clock solo =
      (.ok [[("exists", .truth (decide (solo.tables.Has .accounts accountId)))]], solo) := by
  have known : Statement.rowsOn ⟨.exists .accounts (.equals "id" 1), [.uuid accountId]⟩ solo.tables =
      [[("exists", .truth (decide (solo.tables.Has .accounts accountId)))]] := by
    change [[("exists", Cell.truth ((solo.tables.rows .accounts).any _))]] = _
    congr 4
    rw [Bool.eq_iff_iff, List.any_eq_true, decide_eq_true_iff, Tables.Has]
    simp only [holds_equals (show (Cell.uuid accountId).isNull = false from rfl), beq_iff_eq]
  have found : execute solo.tables (some {}) ⟨.exists .accounts (.equals "id" 1), [.uuid accountId]⟩ =
      .found [[("exists", .truth (decide (solo.tables.Has .accounts accountId)))]] solo.tables
        (some {}) := by
    rw [execute_of_looks rfl rfl, show visible solo.tables (some {}) = solo.tables ++ .empty from rfl,
      Tables.append_empty, known]
  rw [Operation.solo_send_of_held held rfl]
  dsimp only
  rw [found]
  exact congrArg (fun connection => (_, { solo with connection := connection })) held.symm

/-- Once its account has been found, an order is added with its lines unless something forbids them. -/
theorem solo_addRows {order : Order} {wishes : List (NewLine × Int)}
    (held : solo.connection = some ⟨some {}, true⟩) :
    ((do
      let _ ← Operation.send .transaction (Statement.insert .orders [order.cells] false).query
        (Statement.insert .orders [order.cells] false).values
      let lines ← makeLines order.id wishes
      addLines lines
      Operation.commit .transaction
      return { order with items := lines } : Operation Order).run.solo id clock solo).1 =
      (do
        checkRows solo.tables .orders [order.header]
        checkRows (solo.tables ++ Tables.only [order.header] .orders) .orderItems
          ((OrderLine.drafts id clock order.id wishes solo.ids solo.readings).map OrderLine.kept)
        return { order with items := OrderLine.drafts id clock order.id wishes solo.ids solo.readings
          }).mapError fun report => .transaction (.refused report) := by
  have headed : checkRows (solo.tables ++ .empty) .orders ([order.cells].map Table.orders.kept) =
      checkRows solo.tables .orders [order.header] := by
    rw [Tables.append_empty]
    rfl
  cases header : checkRows solo.tables .orders [order.header] with
  | error report =>
    exact Operation.solo_bind_error (solo_send_batch_error held rfl (headed.trans header))
  | ok done =>
    rw [Operation.solo_bind, solo_send_batch held rfl (headed.trans header)]
    dsimp only
    rw [Operation.solo_bind, makeLines_solo]
    dsimp only
    generalize OrderLine.drafts id clock order.id wishes solo.ids solo.readings = lines
    have lined : checkRows (solo.tables ++ (.empty ++ .only ([order.cells].map Table.orders.kept) .orders))
        .orderItems (lines.map OrderLine.kept) =
          checkRows (solo.tables ++ Tables.only [order.header] .orders) .orderItems
            (lines.map OrderLine.kept) := by
      rw [Tables.empty_append]
      rfl
    cases batch : checkRows (solo.tables ++ Tables.only [order.header] .orders) .orderItems
        (lines.map OrderLine.kept) with
    | error report =>
      exact Operation.solo_bind_error (solo_addLines_error (by rfl) (by exact lined.trans batch))
    | ok done =>
      rw [Operation.solo_bind, solo_addLines (by rfl) (by exact lined.trans batch)]
      dsimp only
      rw [Operation.solo_bind, solo_commit rfl]
      rfl

/-- Undisturbed, the draft is what comes of the call. -/
theorem add_solo (input : NewOrder) (solo : Solo) :
    ((add input).run.solo id clock solo).1 =
      addOn (.draft id clock input solo.ids solo.readings) solo.tables := by
  rw [add, Operation.solo_bind, Operation.solo_takeTurn]
  dsimp only
  rw [Operation.solo_bind, Operation.solo_readClock]
  dsimp only
  rw [Operation.solo_bind, Operation.solo_freshId]
  dsimp only
  rw [Operation.solo_bind, Operation.solo_connect]
  dsimp only
  rw [Operation.solo_bind, solo_begin rfl]
  dsimp only
  rw [Operation.solo_bind, solo_lookUp rfl]
  dsimp only
  rw [Operation.solo_bind, Operation.solo_known,
    show ∀ found, Row.readFirst [[("exists", .truth found)]] Row.truth? = .ok found from fun _ => rfl]
  dsimp only [mapError_ok]
  by_cases known : solo.tables.Has .accounts input.accountId
  · rw [if_pos (by exact decide_eq_true known), addOn, if_pos (by exact known)]
    exact solo_addRows rfl
  · rw [if_neg (by exact fun found => known (of_decide_eq_true found)), addOn, if_neg (by exact known)]
    rfl

end Solo

end OrderStore

/-! ### What becomes of a call -/

/-- All items that the order is about exist. -/
def NewOrder.StockedIn (input : NewOrder) (tables : Tables) : Prop :=
  ∀ line, some line ∈ input.items → tables.Has .items line.itemId

/-- What can become of a call that nothing disturbs: the tables afterwards, and its answer. -/
inductive OrderStore.Creates (input : NewOrder) (before : Tables) :
    Tables → Except StoreError Order → Prop
  | unknown (unknown : ¬ before.Has .accounts input.accountId) :
      Creates input before before (.error (.notFound "Account" input.accountId.text))
  | broken {cause : DriverError} (known : before.Has .accounts input.accountId)
      (unstocked : ¬ input.StockedIn before) : Creates input before before (.error (.transaction cause))
  | made {order : Order} (known : before.Has .accounts input.accountId)
      (stocked : input.StockedIn before) (made : order.MadeFrom input) :
      Creates input before (before ++ order.kept) (.ok order)

namespace OrderStore

variable {environment : Environment} {outer limit : Option Duration} {input : NewOrder}
  {machine after : Machine}

/-- The items of the lines are those that are asked for. -/
theorem stocked_iff {order : Order} {tables : Tables} (asked : order.MadeFrom input) :
    (∀ line ∈ order.items, tables.Has .items line.itemId) ↔ input.StockedIn tables := by
  refine ⟨fun all wish member => ?_,
    fun all line member => all _ (asked.mem_iff.mp ⟨line, member, rfl⟩)⟩
  obtain ⟨line, inside, rfl⟩ := asked.mem_iff.mpr member
  exact all line inside

/-- What becomes of a new order becomes of the call that makes it. -/
theorem creates_of_newIn [Collation] {order : Order} (asked : order.MadeFrom input)
    (new : order.NewIn machine.tables) (sound : machine.tables.Sound)
    (positive : ∀ line, some line ∈ input.items → 1 ≤ line.quantity)
    (performed : machine.perform environment outer ((inDatabase limit).create (some input)) =
      (after, .finished (addOn order machine.tables))) :
    Creates input machine.tables after.tables (addOn order machine.tables) := by
  have enough : ∀ line ∈ order.items, 1 ≤ line.quantity := fun line member =>
    positive _ (asked.mem_iff.mp ⟨line, member, rfl⟩)
  have fitting := new.fitsIn_iff sound asked.numbered enough
  rw [stocked_iff asked] at fitting
  by_cases known : machine.tables.Has .accounts order.accountId
  · by_cases stocked : input.StockedIn machine.tables
    · rw [addOn_eq_ok_iff.mpr ⟨rfl, fitting.mpr ⟨known, stocked⟩⟩] at performed ⊢
      rw [(tables_of_created performed).2]
      exact .made (asked.accountId_eq ▸ known) stocked asked
    · obtain ⟨cause, fails⟩ := exists_addOn_error known fun fits => stocked (fitting.mp fits).2
      rw [fails] at performed ⊢
      rw [tables_of_failed performed nofun]
      exact .broken (asked.accountId_eq ▸ known) stocked
  · rw [addOn_of_unknown known, asked.accountId_eq] at performed ⊢
    rw [tables_of_failed performed nofun]
    exact .unknown (asked.accountId_eq ▸ known)

/-- In time, on a database that nothing disturbs, one of the three becomes of a call. -/
theorem creates [Collation] (healthy : environment.Healthy) (available : machine.pool = .open)
    (inTime : ((inDatabase limit).create (some input)).InTime environment outer machine)
    (sound : machine.tables.Sound) (positive : ∀ line, some line ∈ input.items → 1 ≤ line.quantity)
    {first last : Nat} (fresh : environment.FreshIn machine.tables first last)
    (started : first ≤ machine.ids) (enough : machine.ids + input.items.length < last) :
    ∃ after result,
      machine.perform environment outer ((inDatabase limit).create (some input)) =
        (after, .finished result) ∧ Creates input machine.tables after.tables result := by
  have ended : (machine.perform environment outer ((inDatabase limit).create (some input))).2 =
      .finished (addOn (.draft environment.id environment.clock input machine.ids machine.readings)
        machine.tables) := by
    rw [Machine.perform_of_inTime healthy available inTime,
      show ((inDatabase limit).create (some input)).program = (add input).run from rfl, add_solo]
  exact ⟨_, _, Prod.ext rfl ended, creates_of_newIn (Order.draft_madeFrom _ _ _)
    (Order.draft_newIn fresh started enough) sound positive (Prod.ext rfl ended)⟩

/-- An order is made if its account and its items are there. -/
theorem Creates.exists_order {before after : Tables} {result : Except StoreError Order}
    (creates : Creates input before after result) (known : before.Has .accounts input.accountId)
    (stocked : input.StockedIn before) : ∃ order, result = .ok order := by
  cases creates with
  | unknown absent => exact absurd known absent
  | broken _ unstocked => exact absurd stocked unstocked
  | made _ _ _ => exact ⟨_, rfl⟩

end OrderStore

/-! ### A shop with an account and an item -/

/-- What the tables hold when an account and an item have been made. -/
def shop : Tables where
  accounts := [(Account.register ⟨"ada@example.org", none, none, none, .female⟩ (.numbered 10)
    (.ofClock 0)).kept]
  items := [(Item.register ⟨"Tea", none, ⟨0⟩⟩ (.numbered 11) (.ofClock 1000)).kept]

/-- A machine on which an account and an item have been made. -/
def Machine.stocked : Machine := { tables := shop, ids := 2, readings := 2 }

/-- The identifiers that the sample gives out are new in the shop. -/
theorem freshIn_shop {last : Nat} (small : last ≤ twoTo 56) :
    Environment.FreshIn .sample shop 2 last := by
  have bound : twoTo 56 + 10 ≤ twoTo 60 := by decide
  have apart : ∀ {count number : Nat}, 2 ≤ count → count < last → number < 12 →
      Environment.sample.id count ≠ .numbered number := by
    intro count number started below known same
    have := Uuid.numbered_injective (by omega) (by omega) same
    omega
  refine ⟨fun one other _ below _ below' same => ?_, fun count started below table => ?_⟩
  · have := Uuid.numbered_injective (by omega) (by omega) same
    omega
  · rintro ⟨row, member, same⟩
    cases table with
    | accounts =>
      obtain rfl := List.mem_singleton.mp member
      exact apart started below (by decide) (Cell.uuid.inj same).symm
    | items =>
      obtain rfl := List.mem_singleton.mp member
      exact apart started below (by decide) (Cell.uuid.inj same).symm
    | orders => cases member
    | orderItems => cases member

end Storefront
