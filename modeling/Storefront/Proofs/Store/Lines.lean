/-
**Orders get their own lines.**

Orders are completed all at once: one statement finds the lines of all of them, and these are dealt out.
Whatever orders are completed together and in whatever order they stand, each gets the lines that name
it and no others, in the order of the positions (`OrderStore.complete`).  So an order looks the same on a
page and when it is looked up.

Main statements:

* `Tables.Grown.hasLines`: every state that a store reaches holds lines;
* `OrderStore.withLinesOn_complete`: orders with distinct identifiers get their own lines;
* `OrderStore.findOn_of_searchOn`: an order of a page is what is found under its identifier;
* `orders_get_their_own_lines`: both, of the calls.
-/

import Storefront.Proofs.Store.Pages

namespace Storefront

/-- The tables hold these lines, and no two lines of an order have the same position. -/
structure Tables.HasLines (tables : Tables) (lines : List OrderLine) : Prop where
  rows : tables.orderItems = lines.map OrderLine.row
  placed : (lines.map fun line => (line.orderId, line.position)).Nodup

/-- Pairs differ if the second halves of those with the same first half do. -/
theorem nodup_pairs {α β γ : Type} [BEq β] [LawfulBEq β] {first : α → β} {second : α → γ}
    {values : List α}
    (apart : ∀ value ∈ values,
      ((values.filter fun other => first other == first value).map second).Nodup) :
    (values.map fun value => (first value, second value)).Nodup := by
  induction values with
  | nil => exact List.nodup_nil
  | cons value rest ih =>
    refine List.nodup_cons.mpr ⟨fun member => ?_, ih fun other member => ?_⟩
    · obtain ⟨other, inside, same⟩ := List.mem_map.mp member
      obtain ⟨firsts, seconds⟩ := Prod.mk.inj same
      have distinct := apart value List.mem_cons_self
      rw [List.filter_cons, if_pos (beq_self_eq_true _), List.map_cons] at distinct
      refine (List.nodup_cons.mp distinct).1 (seconds ▸ List.mem_map_of_mem ?_)
      exact List.mem_filter.mpr ⟨inside, beq_iff_eq.mpr firsts⟩
    · exact (((List.sublist_cons_self value rest).filter _).map second).nodup
        (apart other (List.mem_cons_of_mem _ member))

/-- Tables that have grown from empty ones hold lines, each at a place of its own. -/
theorem Tables.Grown.hasLines {tables : Tables} (grown : Tables.empty.Grown tables) :
    ∃ lines, tables.HasLines lines := by
  have sound := sound_empty.grown grown
  obtain ⟨items, orders, holds⟩ := grown.holds
  obtain ⟨lines, rows, own⟩ := holds.lines
  refine ⟨lines, rows, nodup_pairs fun line member => ?_⟩
  have row : line.row ∈ tables.orderItems := rows ▸ List.mem_map_of_mem member
  obtain ⟨placed, there, refers⟩ := sound.placed _ row
  rw [holds.orderRows] at there
  obtain ⟨order, inside, rfl⟩ := List.mem_map.mp there
  have named : line.orderId = order.id := Cell.uuid.inj refers
  obtain ⟨permuted, ascending⟩ := own order inside
  rw [named, ← (permuted.map OrderLine.position).nodup_iff, List.nodup_iff_pairwise_ne,
    List.pairwise_map]
  exact ascending.imp fun less => less.ne

namespace OrderStore

variable {tables : Tables} {lines : List OrderLine} {orders : List Order}

/-- The lines of an order among others, in the order of their positions. -/
def ownLines (lines : List OrderLine) (id : Uuid) : List OrderLine :=
  (lines.filter fun line => line.orderId == id).mergeSort fun first second =>
    first.position ≤ second.position

/-- An order with its own lines. -/
def complete (lines : List OrderLine) (order : Order) : Order :=
  { order with items := ownLines lines order.id }

theorem ownLines_perm (lines : List OrderLine) (id : Uuid) :
    (ownLines lines id).Perm (lines.filter fun line => line.orderId == id) :=
  List.mergeSort_perm _ _

/-- The positions of the lines of an order ascend. -/
theorem ownLines_placed (placed : (lines.map fun line => (line.orderId, line.position)).Nodup)
    (id : Uuid) :
    (ownLines lines id).Pairwise fun first second => first.position < second.position := by
  have sorted : (ownLines lines id).Pairwise fun first second =>
      decide (first.position ≤ second.position) = true := by
    refine List.pairwise_mergeSort ?_ ?_ _
    · intro first second third earlier later
      exact decide_eq_true ((of_decide_eq_true earlier).trans (of_decide_eq_true later))
    · intro first second
      simp only [Bool.or_eq_true, decide_eq_true_eq]
      exact le_total _ _
  have apart : (ownLines lines id).Pairwise fun first second =>
      (first.orderId, first.position) ≠ (second.orderId, second.position) := by
    have own := (ownLines_perm lines id).map fun line => (line.orderId, line.position)
    have distinct := own.nodup_iff.mpr ((List.filter_sublist.map _).nodup placed)
    rw [List.nodup_iff_pairwise_ne, List.pairwise_map] at distinct
    exact distinct
  refine (sorted.and apart).imp_of_mem fun {first second} member member' both => ?_
  have named : ∀ line ∈ ownLines lines id, line.orderId = id := fun line member =>
    beq_iff_eq.mp (List.mem_filter.mp ((ownLines_perm lines id).mem_iff.mp member)).2
  refine lt_of_le_of_ne (of_decide_eq_true both.1) fun same => both.2 ?_
  rw [named first member, named second member', same]

/-- **Orders with distinct identifiers get their own lines**, whichever are completed together. -/
theorem withLinesOn_complete [Collation] (held : tables.HasLines lines)
    (distinct : (orders.map Order.id).Nodup) :
    withLinesOn orders tables = .ok (orders.map (complete lines)) := by
  have bares : (orders.map (complete lines)).map bare = orders.map bare := List.map_map
  have ids : (orders.map (complete lines)).map Order.id = orders.map Order.id := List.map_map
  rw [← withLinesOn_bare, ← bares]
  refine withLinesOn_eq held.rows (ids ▸ distinct) fun order member => ?_
  obtain ⟨given, _, rfl⟩ := List.mem_map.mp member
  exact ⟨ownLines_perm lines given.id, ownLines_placed held.placed given.id⟩

/-- An order that is read from the only row with its identifier is found with its own lines. -/
theorem findOn_complete [Collation] (held : tables.HasLines lines) (distinct : tables.Distinct)
    {row : Row} {order : Order} (member : row ∈ tables.orders) (read : Order.ofRow row = .ok order) :
    findOn order.id tables = .ok (complete lines order) := by
  have found : Statement.rowsOn ⟨.select .orders (.equals "id" 1) [] none, [.uuid order.id]⟩ tables =
      [row] := rowsOn_id distinct member (Order.get_id_of_ofRow read)
  have single : ([order].map Order.id).Nodup := List.pairwise_singleton _ _
  rw [findOn, found]
  dsimp only
  rw [read]
  change Except.mapError _ (withLinesOn [order] tables >>= _) = _
  rw [withLinesOn_complete held single]
  rfl

/-- An order of a page is what is found under its identifier. -/
theorem findOn_of_searchOn [Collation] (held : tables.HasLines lines) (distinct : tables.Distinct)
    {accountId : Uuid} {request : PageRequest} {page : Page Order}
    (found : searchOn accountId request tables = .ok page) :
    ∀ order ∈ page.elements, findOn order.id tables = .ok order := by
  unfold searchOn at found
  split at found
  · cases found
  · obtain ⟨total, _, found⟩ := bind_eq_ok_iff.mp (mapError_eq_ok_iff.mp found)
    split at found
    · cases found
      exact fun _ member => nomatch member
    · obtain ⟨orders, read, found⟩ := bind_eq_ok_iff.mp found
      obtain ⟨completed, attached, found⟩ := bind_eq_ok_iff.mp found
      cases found
      rw [withLinesOn_complete held (nodup_of_readAll distinct read)] at attached
      obtain rfl := Except.ok.inj attached
      intro order member
      obtain ⟨bare, inside, rfl⟩ := List.mem_map.mp member
      obtain ⟨row, listed, same⟩ := Row.exists_row_of_readAll read inside
      have whole : findOn bare.id tables = .ok (complete lines bare) :=
        findOn_complete held distinct (mem_rows_of_select listed) same
      exact whole

end OrderStore

section Undisturbed

variable [Collation] {id : Nat → Uuid} {clock : Nat → Int}

/-- Undisturbed, a call for a page of orders gives what the tables hold. -/
theorem StoreCall.orderSearch_solo (accountId : Uuid) (request : PageRequest) (solo : Solo) :
    ((orderSearch accountId request).program.solo id clock solo).1 =
      .orders (OrderStore.searchOn accountId request solo.tables) :=
  (congrArg Prod.fst Action.solo_program_map).trans
    (congrArg StoreAnswer.orders (OrderStore.search_solo accountId request solo))

/-- Undisturbed, a look for an order gives what the tables hold. -/
theorem StoreCall.orderById_solo (key : Uuid) (solo : Solo) :
    ((orderById key).program.solo id clock solo).1 = .order (OrderStore.findOn key solo.tables) :=
  (congrArg Prod.fst Action.solo_program_map).trans
    (congrArg StoreAnswer.order (OrderStore.find_solo key solo))

end Undisturbed

/-- **Orders get their own lines.** Orders with distinct identifiers that are completed together stay as
they are and where they are, and each gets exactly the lines of the tables that name it, in ascending
positions.  So every order of a page is what looking it up under its identifier gives on the same
tables. -/
theorem orders_get_their_own_lines [Collation] {tables : Tables} {lines : List OrderLine}
    (held : tables.HasLines lines) :
    (∀ (orders : List Order) id clock (solo : Solo), (orders.map Order.id).Nodup →
      solo.tables = tables → solo.Looking →
        ∃ completed after,
          (OrderStore.withLines orders).run.solo id clock solo = (.ok completed, after) ∧
          List.Forall₂ (fun order result => result = { order with items := result.items } ∧
            result.items.Perm (lines.filter fun line => line.orderId == order.id) ∧
            result.items.Pairwise fun first second => first.position < second.position)
            orders completed) ∧
      (tables.Distinct → ∀ (accountId : Uuid) (request : PageRequest) (page : Page Order)
        (environment : Environment) (outer limit : Option Duration) (machine : Machine),
        environment.Healthy → machine.pool = .open → machine.tables = tables →
        ((StoreCall.orderSearch accountId request).action limit).InTime environment outer machine →
        (machine.perform environment outer ((StoreCall.orderSearch accountId request).action limit)).2 =
          .finished (.orders (.ok page)) →
        ∀ order ∈ page.elements,
          ∀ (environment : Environment) (outer limit : Option Duration) (machine : Machine),
            environment.Healthy → machine.pool = .open → machine.tables = tables →
            ((StoreCall.orderById order.id).action limit).InTime environment outer machine →
            (machine.perform environment outer ((StoreCall.orderById order.id).action limit)).2 =
              .finished (.order (.ok order))) := by
  constructor
  · rintro orders id clock solo distinct rfl looking
    obtain ⟨after, completes, _⟩ := @OrderStore.withLines_solo _ id clock orders solo looking
    rw [OrderStore.withLinesOn_complete held distinct] at completes
    refine ⟨_, after, completes, ?_⟩
    rw [List.forall₂_map_right_iff, List.forall₂_same]
    intro order _
    exact ⟨rfl, OrderStore.ownLines_perm lines order.id, OrderStore.ownLines_placed held.placed order.id⟩
  · rintro distinct accountId request page environment outer limit machine healthy available rfl
      inTime finished order member environment' outer' limit' machine' healthy' available' same inTime'
    rw [Machine.perform_of_inTime healthy available inTime, StoreCall.program_action] at finished
    rw [StoreCall.orderSearch_solo] at finished
    rw [Machine.perform_of_inTime healthy' available' inTime', StoreCall.program_action,
      StoreCall.orderById_solo]
    have searched : OrderStore.searchOn accountId request machine.tables = .ok page :=
      StoreAnswer.orders.inj (Ending.finished.inj finished)
    have found := OrderStore.findOn_of_searchOn held distinct searched order member
    dsimp only
    rw [same, found]

/-- A line of an order at a position. -/
def OrderLine.sample (order position : Nat) : OrderLine :=
  ⟨.numbered (10 * order + position), .numbered order, .numbered 2, 1, position, ⟨0⟩, ⟨0⟩⟩

/-- An order with lines at these positions. -/
def Order.sample (order : Nat) (positions : List Nat) : Order :=
  ⟨.numbered order, .numbered 1, ⟨0⟩, ⟨0⟩, positions.map (OrderLine.sample order)⟩

/-- The lines of two orders, mixed. -/
def OrderLine.samples : List OrderLine := [.sample 6 1, .sample 5 0, .sample 6 0]

/-- Three orders, of which the last one has no lines. -/
def Order.samples : List Order := [.sample 5 [0], .sample 6 [0, 1], .sample 7 []]

/-- Tables with these orders and lines. -/
def Tables.mixed : Tables :=
  { Tables.sample with
    orders := Order.samples.map Order.row
    orderItems := OrderLine.samples.map OrderLine.row }

theorem Tables.holds_mixed : Tables.mixed.Holds [.register ⟨"Tea", none, ⟨0⟩⟩ (.numbered 2) ⟨0⟩]
    Order.samples where
  itemRows := rfl
  orderRows := rfl
  distinct := by decide
  lines := ⟨OrderLine.samples, rfl, by decide⟩

/-- The page of these orders, and orders that are completed the other way round.  Lines are held in every
state that a store reaches. -/
theorem orders_get_their_own_lines_mixed :
    (∀ tables, Tables.empty.Grown tables → ∃ lines, tables.HasLines lines) ∧
    (∀ order ∈ Order.samples,
      (Machine.perform .sample none ((StoreCall.orderById order.id).action none)
        { tables := .mixed }).2 = .finished (.order (.ok order))) ∧
      ∀ solo : Solo, solo.tables = .mixed → solo.Looking → ∃ completed after,
        (OrderStore.withLines (Order.samples.reverse.map OrderStore.bare)).run.solo Uuid.numbered
          (fun _ => 0) solo = (.ok completed, after) ∧
        completed.map (fun order => order.items.length) = [0, 2, 1] := by
  have held : Tables.mixed.HasLines OrderLine.samples := ⟨rfl, by decide⟩
  have distinct : Tables.mixed.Distinct := by
    intro table
    cases table <;> decide
  have prompt : ∀ {α : Type} (action : Action α),
      action.InTime .sample none { tables := .mixed } := Action.inTime_of_prompt (fun _ => rfl) _ _
  have healthy : Environment.sample.Healthy := Environment.healthy_smooth _ _
  obtain ⟨attach, agree⟩ := orders_get_their_own_lines held
  refine ⟨fun _ grown => grown.hasLines, ?_, ?_⟩
  · have listed : OrderStore.searchOn (.numbered 1) .unpaged .mixed =
        .ok (.ofWindow (Order.samples.mergeSort (SortKey.notAfter [] Order.row)) 3 0) :=
      OrderStore.listOn_of_holds Tables.holds_mixed (.numbered 1)
    have unsorted : Order.samples.mergeSort (SortKey.notAfter [] Order.row) = Order.samples :=
      List.mergeSort_of_pairwise (by decide)
    have finished : (Machine.perform .sample none
        ((StoreCall.orderSearch (.numbered 1) .unpaged).action none) { tables := .mixed }).2 =
          .finished (.orders (.ok (.ofWindow Order.samples 3 0))) := by
      rw [Machine.perform_of_inTime healthy rfl (prompt _), StoreCall.program_action,
        StoreCall.orderSearch_solo, listed, unsorted]
    intro order member
    exact agree distinct _ _ _ _ none none _ healthy rfl rfl (prompt _) finished order member .sample
      none none _ healthy rfl rfl (prompt _)
  · intro solo same looking
    obtain ⟨completed, after, completes, own⟩ :=
      attach (Order.samples.reverse.map OrderStore.bare) Uuid.numbered (fun _ => 0) solo (by decide)
        same looking
    refine ⟨completed, after, completes, ?_⟩
    have lengths : List.Forall₂ Eq (completed.map fun order => order.items.length)
        ((Order.samples.reverse.map OrderStore.bare).map fun order =>
          (OrderLine.samples.filter fun line => line.orderId == order.id).length) := by
      rw [List.forall₂_map_left_iff, List.forall₂_map_right_iff]
      exact own.flip.imp fun result order gets => gets.2.1.length_eq
    rw [List.forall₂_eq_eq_eq] at lengths
    rw [lengths]
    decide

end Storefront
