/-
**What the tables hold is found.**

An `Entity` is an account, an item or an order.  Tables that hold its rows (`Entity.StoredIn`) still
hold them when they have grown, and looking it up under its identifier finds it, field for field: an
order is put together again from its row and the rows of its lines, which the positions bring back
in order.

Main statements:

* `Entity.StoredIn.grown`: what is stored stays stored;
* `Entity.lookUpOn_of_stored`: what is stored is found;
* `Entity.StoredIn.kept`: so every later look finds it, in any environment.
-/

import Storefront.Proofs.Order.Complete
import Storefront.Proofs.Program.Endings
import Storefront.Proofs.Program.Results
import Storefront.Proofs.Store.Soundness

namespace Storefront

/-! ### Rows of entities -/

/-- The account as its row keeps it. -/
def Account.stored (account : Account) : Account :=
  { account with createdAt := account.createdAt.stored, updatedAt := account.updatedAt.stored }

/-- The item as its row keeps it. -/
def Item.stored (item : Item) : Item :=
  { item with createdAt := item.createdAt.stored, updatedAt := item.updatedAt.stored }

theorem Account.kept_eq (account : Account) : account.kept = account.stored.row := by
  rcases account with ⟨_, _, _ | _, _ | _, _ | _, _, _, _⟩ <;> rfl

theorem Item.kept_eq (item : Item) : item.kept = item.stored.row := by
  rcases item with ⟨_, _, _ | _, _, _, _⟩ <;> rfl

/-- The moment is kept as it is: it is one of whole microseconds. -/
def Timestamp.Whole (moment : Timestamp) : Prop := moment.stored = moment

/-- Both moments of the line are whole microseconds. -/
structure OrderLine.Timely (line : OrderLine) : Prop where
  createdAt : line.createdAt.Whole
  updatedAt : line.updatedAt.Whole

/-- All moments of the order and its lines are whole microseconds. -/
structure Order.Timely (order : Order) : Prop where
  createdAt : order.createdAt.Whole
  updatedAt : order.updatedAt.Whole
  lines : ∀ line ∈ order.items, line.Timely

/-- A line whose moments are whole microseconds is kept as it is. -/
theorem OrderLine.Timely.kept_eq {line : OrderLine} (timely : line.Timely) : line.kept = line.row := by
  have kept : line.kept = OrderLine.row
      { line with createdAt := line.createdAt.stored, updatedAt := line.updatedAt.stored } := rfl
  rw [kept, timely.createdAt, timely.updatedAt]

/-- So is an order. -/
theorem Order.Timely.header_eq {order : Order} (timely : order.Timely) :
    order.header = order.row := by
  have kept : order.header = Order.row
      { order with createdAt := order.createdAt.stored, updatedAt := order.updatedAt.stored } := rfl
  rw [kept, timely.createdAt, timely.updatedAt]

theorem Order.Timely.map_kept {order : Order} (timely : order.Timely) :
    order.items.map OrderLine.kept = order.items.map OrderLine.row :=
  List.map_congr_left fun line member => (timely.lines line member).kept_eq

/-- The lines of an order stand in the order of their positions. -/
theorem Order.Numbered.placed {order : Order} (numbered : order.Numbered) :
    order.items.Pairwise fun first second =>
      first.orderId = second.orderId ∧ first.position < second.position := by
  have placed : (order.items.map fun line => (line.orderId, line.position)).Pairwise
      fun first second => first.1 = second.1 ∧ first.2 < second.2 := by
    rw [numbered, List.pairwise_map]
    exact List.pairwise_lt_range.imp fun before => ⟨rfl, Int.ofNat_lt.mpr before⟩
  rwa [List.pairwise_map] at placed

/-! ### Rows that are found -/

/-- Rows are read one by one. -/
theorem Row.readAll_rows {α β : Type} {read : Row → Except DriverError β} {row : α → Row}
    {record : α → β} (back : ∀ value, read (row value) = .ok (record value)) (values : List α) :
    readAll read (values.map row) = .ok (values.map record) := by
  induction values with
  | nil => rfl
  | cons value rest ih =>
    rw [List.map_cons, readAll, back, ih]
    rfl

/-- All records are read back from their rows. -/
theorem Row.readAll_map {α : Type} {read : Row → Except DriverError α} {row : α → Row}
    (back : ∀ value, read (row value) = .ok value) (values : List α) :
    readAll read (values.map row) = .ok values :=
  (readAll_rows back values).trans (congrArg Except.ok (List.map_id' values))

/-- Where no key occurs twice, the elements with the key of one of them are that one. -/
theorem filter_key_eq {α β : Type} [BEq β] [LawfulBEq β] {key : α → β} {rows : List α} {row : α}
    (distinct : (rows.map key).Nodup) (member : row ∈ rows) :
    (rows.filter fun other => key other == key row) = [row] := by
  induction rows with
  | nil => cases member
  | cons first rest ih =>
    obtain ⟨absent, distinct⟩ := List.nodup_cons.mp distinct
    rcases List.mem_cons.mp member with rfl | later
    · have others : (rest.filter fun other => key other == key row) = [] := by
        rw [List.filter_eq_nil_iff]
        intro other inside same
        exact absent (beq_iff_eq.mp same ▸ List.mem_map_of_mem inside)
      rw [List.filter_cons, if_pos (beq_self_eq_true _), others]
    · have other : ¬ (key first == key row) = true := by
        intro same
        exact absent (beq_iff_eq.mp same ▸ List.mem_map_of_mem later)
      rw [List.filter_cons, if_neg other, ih distinct later]

/-- A look for a value in a column finds the rows that have it, in their order. -/
theorem rowsOn_equals [Collation] {tables : Tables} {table : Table} {column : String} {cell : Cell}
    (present : cell.isNull = false) :
    Statement.rowsOn ⟨.select table (.equals column 1) [] none, [cell]⟩ tables =
      sortRows [] ((tables.rows table).filter fun row => row.get column == cell) := by
  have found : (tables.rows table).filter ((Filter.equals column 1).holds
      (Statement.value ⟨.select table (.equals column 1) [] none, [cell]⟩)) =
        (tables.rows table).filter fun row => row.get column == cell :=
    List.filter_congr fun _ _ => holds_equals present
  change select _ _ _ _ _ _ = _
  rw [select, found]
  rfl

/-- A value that no other row has in a column leads to its row. -/
theorem rowsOn_of_nodup [Collation] {tables : Tables} {table : Table} {column : String} {row : Row}
    {cell : Cell} (distinct : ((tables.rows table).map fun row => row.get column).Nodup)
    (member : row ∈ tables.rows table) (named : row.get column = cell) (present : cell.isNull = false) :
    Statement.rowsOn ⟨.select table (.equals column 1) [] none, [cell]⟩ tables = [row] := by
  rw [rowsOn_equals present, ← named, filter_key_eq distinct member]
  exact List.mergeSort_singleton row

/-- The row with an identifier is the only one that is found under it. -/
theorem rowsOn_id [Collation] {tables : Tables} {table : Table} {row : Row} {id : Uuid}
    (distinct : tables.Distinct) (member : row ∈ tables.rows table) (named : row.get "id" = .uuid id) :
    Statement.rowsOn ⟨.select table (.equals "id" 1) [] none, [.uuid id]⟩ tables = [row] :=
  rowsOn_of_nodup (distinct table) member named rfl

/-! ### Entities -/

/-- Something that is stored. -/
inductive Entity
  | account (account : Account)
  | item (item : Item)
  | order (order : Order)

namespace Entity

/-- The call by which it is looked up under its identifier. -/
def lookUp : Entity → StoreCall
  | .account made => .accountById made.id
  | .item made => .itemById made.id
  | .order made => .orderById made.id

/-- The answer of a store that gives it. -/
def answer : Entity → StoreAnswer
  | .account made => .account (.ok made)
  | .item made => .item (.ok made)
  | .order made => .order (.ok made)

/-- What a client is shown of it. -/
def json : Entity → Json.Value
  | .account made => .object [
      ("id", .text made.id.text),
      ("email", .text made.email),
      ("full_name", .optional .text made.fullName),
      ("date_of_birth", .optional (fun date => .text date.text) made.dateOfBirth),
      ("location", .optional .text made.location),
      ("gender", .text made.gender.label),
      ("created_at", .text made.createdAt.text),
      ("updated_at", .text made.updatedAt.text)]
  | .item made => .object [
      ("id", .text made.id.text),
      ("title", .text made.title),
      ("description", .optional .text made.description),
      ("price", .real made.price),
      ("created_at", .text made.createdAt.text),
      ("updated_at", .text made.updatedAt.text)]
  | .order made => .object [
      ("id", .text made.id.text),
      ("account_id", .text made.accountId.text),
      ("created_at", .text made.createdAt.text),
      ("updated_at", .text made.updatedAt.text),
      ("items", .array (made.items.map fun line => .object [
        ("id", .text line.id.text),
        ("order_id", .text line.orderId.text),
        ("item_id", .text line.itemId.text),
        ("quantity", .integer line.quantity),
        ("position", .integer line.position),
        ("created_at", .text line.createdAt.text),
        ("updated_at", .text line.updatedAt.text)]))]

theorem settled_answer (entity : Entity) : entity.answer.Settled := by
  cases entity <;> trivial

/-- The tables hold its rows, and no other lines if it is an order. -/
def StoredIn : Entity → Tables → Prop
  | .account made, tables => made.row ∈ tables.accounts
  | .item made, tables => made.row ∈ tables.items
  | .order made, tables =>
    made.Numbered ∧ made.row ∈ tables.orders ∧
      (tables.orderItems.filter fun row => row.get "order_id" == .uuid made.id) =
        made.items.map OrderLine.row

/-- What is stored stays stored. -/
theorem StoredIn.grown {entity : Entity} {earlier later : Tables} (stored : entity.StoredIn earlier)
    (grown : earlier.Grown later) : entity.StoredIn later := by
  cases entity with
  | account account =>
    have there : account.row ∈ earlier.rows .accounts := stored
    exact grown.mem_rows there
  | item item =>
    have there : item.row ∈ earlier.rows .items := stored
    exact grown.mem_rows there
  | order order =>
    obtain ⟨numbered, there, lines⟩ := stored
    have still : order.row ∈ later.rows .orders := grown.mem_rows there
    exact ⟨numbered, still, (grown.lines_eq ⟨_, there, rfl⟩).trans lines⟩

variable [Collation]

/-- What looking it up finds in tables. -/
def lookUpOn : Entity → Tables → StoreAnswer
  | .account made, tables =>
    .account (AccountStore.findOn "id" (.uuid made.id) made.id.text tables)
  | .item made, tables => .item (ItemStore.findOn made.id tables)
  | .order made, tables => .order (OrderStore.findOn made.id tables)

/-- The rows of the lines of an order are in the order in which they are asked for. -/
theorem sortRows_lines {order : Order} (numbered : order.Numbered) :
    sortRows [⟨"order_id", none⟩, ⟨"position", none⟩] (order.items.map OrderLine.row) =
      order.items.map OrderLine.row := by
  refine List.mergeSort_of_pairwise (List.pairwise_map.mpr ?_)
  refine numbered.placed.imp fun {first second} placed => ?_
  obtain ⟨same, before⟩ := placed
  have orders : Cell.order {} (.uuid first.orderId) (.uuid second.orderId) = .eq := by
    rw [same]
    exact Cell.order_refl _ _
  have positions : Cell.order {} (.integer first.position) (.integer second.position) = .lt := by
    change Cell.compareInts _ _ = _
    rw [Cell.compareInts, if_pos before]
  change ((Cell.order {} (.uuid first.orderId) (.uuid second.orderId)).then
    ((Cell.order {} (.integer first.position) (.integer second.position)).then .eq)).isLE = true
  rw [orders, positions]
  rfl

/-- The lines of an order are found in the order of their positions. -/
theorem rowsOn_lines {order : Order} {tables : Tables} (stored : (Entity.order order).StoredIn tables) :
    Statement.rowsOn ⟨OrderStore.linesQuery, [.uuids [order.id]]⟩ tables =
      order.items.map OrderLine.row := by
  obtain ⟨numbered, _, lines⟩ := stored
  have found : (tables.rows .orderItems).filter ((Filter.among "order_id" 1).holds
      (Statement.value ⟨OrderStore.linesQuery, [.uuids [order.id]]⟩)) =
        order.items.map OrderLine.row := by
    rw [← lines]
    exact List.filter_congr fun row _ => OrderStore.holds_among_singleton
  change select _ _ _ _ _ _ = _
  rw [select, found]
  exact sortRows_lines numbered

/-- The order with its lines is put together again. -/
theorem findOn_of_stored {order : Order} {tables : Tables} (distinct : tables.Distinct)
    (stored : (Entity.order order).StoredIn tables) :
    OrderStore.findOn order.id tables = .ok order := by
  have found : Statement.rowsOn ⟨.select .orders (.equals "id" 1) [] none, [.uuid order.id]⟩
      tables = [order.row] := rowsOn_id distinct stored.2.1 rfl
  have lines : Row.readAll OrderLine.ofRow
      (Statement.rowsOn ⟨OrderStore.linesQuery, [.uuids [order.id]]⟩ tables) = .ok order.items := by
    rw [rowsOn_lines stored]
    exact Row.readAll_map OrderLine.ofRow_row order.items
  have own : (order.items.filter fun line => line.orderId == order.id) = order.items :=
    List.filter_eq_self.mpr fun line member => beq_iff_eq.mpr (stored.1.orderId_eq member)
  rw [OrderStore.findOn, found]
  dsimp only
  rw [Order.ofRow_row]
  change Except.mapError _ (Row.readAll _
    (Statement.rowsOn ⟨OrderStore.linesQuery, [.uuids [order.id]]⟩ tables) >>= _ >>= _) = _
  rw [lines]
  change Except.ok { order with items := order.items.filter fun line => line.orderId == order.id } = _
  rw [own]

/-- What is stored is found. -/
theorem lookUpOn_of_stored {entity : Entity} {tables : Tables} (distinct : tables.Distinct)
    (stored : entity.StoredIn tables) : entity.lookUpOn tables = entity.answer := by
  cases entity with
  | account account =>
    have found : Statement.rowsOn ⟨.select .accounts (.equals "id" 1) [] none, [.uuid account.id]⟩
        tables = [account.row] := rowsOn_id distinct stored rfl
    rw [lookUpOn, AccountStore.findOn, Operation.lookUpOn, found]
    dsimp only
    rw [Account.ofRow_row]
    rfl
  | item item =>
    have found : Statement.rowsOn ⟨.select .items (.equals "id" 1) [] none, [.uuid item.id]⟩
        tables = [item.row] := rowsOn_id distinct stored rfl
    rw [lookUpOn, ItemStore.findOn, Operation.lookUpOn, found]
    dsimp only
    rw [Item.ofRow_row]
    rfl
  | order order => rw [lookUpOn, findOn_of_stored distinct stored]; rfl

/-! ### Looks -/

/-- Whatever others do, a settled answer is what one state holds. -/
theorem lookUp_keeps (entity : Entity) (tables : Tables) :
    entity.lookUp.program.Keeps .anywhere
      (fun answer view => answer.Settled → ∃ state ∈ view.seen, entity.lookUpOn state = answer)
      { tables := tables } := by
  have found : ∀ {α : Type} {holds : Tables → Except StoreError α}
      {answer : Except StoreError α → StoreAnswer} {result : Except StoreError α} {view : View},
      ReadPost holds result view → ((answer result).Settled → Settled result) →
        (answer result).Settled → ∃ state ∈ view.seen, answer (holds state) = answer result := by
    intro α holds answer result view reading implies settled
    obtain ⟨state, met, same⟩ := reading (implies settled)
    exact ⟨state, met, congrArg answer same⟩
  cases entity with
  | account account =>
    refine Action.keeps_program_map.mpr ?_
    exact (AccountStore.find_keeps _ _ _).mono (fun _ _ kept => kept) fun _ _ reading => found reading id
  | item item =>
    refine Action.keeps_program_map.mpr ?_
    exact (ItemStore.find_keeps _).mono (fun _ _ kept => kept) fun _ _ reading => found reading id
  | order order =>
    refine Action.keeps_program_map.mpr ?_
    exact (OrderStore.find_keeps _ _).mono (fun _ _ kept => kept) fun _ _ reading => found reading id

/-- Undisturbed, the answer is what the tables hold. -/
theorem lookUp_solo {id : Nat → Uuid} {clock : Nat → Int} (entity : Entity) (solo : Solo) :
    (entity.lookUp.program.solo id clock solo).1 = entity.lookUpOn solo.tables := by
  cases entity with
  | account account =>
    exact (congrArg Prod.fst Action.solo_program_map).trans
      (congrArg StoreAnswer.account (AccountStore.find_solo _ _ solo))
  | item item =>
    exact (congrArg Prod.fst Action.solo_program_map).trans
      (congrArg StoreAnswer.item (ItemStore.find_solo _ solo))
  | order order =>
    exact (congrArg Prod.fst Action.solo_program_map).trans
      (congrArg StoreAnswer.order (OrderStore.find_solo _ solo))

end Entity

/-- The answer that stands in for the result of a call says nothing of what is asked for. -/
theorem StoreCall.not_settled_standIn {limit : Option Duration} {call : StoreCall}
    {answer : StoreAnswer} (standIn : answer ∈ (call.action limit).standIn?) : ¬ answer.Settled := by
  have within : ∀ {α : Type} {result : Except StoreError α → StoreAnswer} {operation : Operation α},
      answer ∈ (result <$> Operation.within limit operation).standIn? →
        (∀ duration, ¬ (result (.error (.timeout duration))).Settled) → ¬ answer.Settled := by
    intro α result operation standIn late
    cases limit with
    | none => cases standIn
    | some duration =>
      obtain rfl := Option.some.inj standIn
      exact late duration
  cases call with
  | createAccount input =>
    cases input with
    | none => cases standIn
    | some input => exact within standIn fun _ => Bool.false_ne_true
  | createItem input =>
    cases input with
    | none => cases standIn
    | some input => exact within standIn fun _ => Bool.false_ne_true
  | createOrder input =>
    cases input with
    | none => cases standIn
    | some input => exact within standIn fun _ => Bool.false_ne_true
  | itemPage request =>
    unfold action ItemStore.inDatabase at standIn
    dsimp only at standIn
    split at standIn
    · cases standIn
    · exact within standIn fun _ => Bool.false_ne_true
  | orderSearch accountId request =>
    unfold action OrderStore.inDatabase at standIn
    dsimp only at standIn
    split at standIn
    · cases standIn
    · exact within standIn fun _ => Bool.false_ne_true
  | _ => exact within standIn fun _ => Bool.false_ne_true

/-- Looking the entity up finds it, field for field: any answer that is not a failure is the entity,
and undisturbed and in time there is such an answer. -/
structure Entity.KeptBy [Collation] (entity : Entity) (machine : Machine) : Prop where
  only : ∀ environment outer limit answer,
    (machine.perform environment outer (entity.lookUp.action limit)).2 = .finished answer →
      answer.Settled → answer = entity.answer
  found : ∀ (environment : Environment) outer limit, environment.Healthy → machine.pool = .open →
    (entity.lookUp.action limit).InTime environment outer machine →
      (machine.perform environment outer (entity.lookUp.action limit)).2 = .finished entity.answer

/-- What is stored is found by every look. -/
theorem Entity.StoredIn.kept [Collation] {entity : Entity} {machine : Machine}
    (stored : entity.StoredIn machine.tables) (distinct : machine.tables.Distinct) :
    entity.KeptBy machine where
  only environment outer limit answer finished settled := by
    have keeps := (entity.lookUp_keeps machine.tables).met Relation.ReflTransGen.refl nofun
    rw [← StoreCall.program_action limit] at keeps
    have own : ∀ other ∈ (entity.lookUp.action limit).standIn?, other ≠ answer := by
      rintro other standIn rfl
      exact StoreCall.not_settled_standIn standIn settled
    obtain ⟨view, ⟨grown, met⟩, _⟩ := Machine.perform_finished keeps finished own
    obtain ⟨state, seen, same⟩ := met settled
    rw [← same]
    exact lookUpOn_of_stored (distinct.grown (grown state seen)) (stored.grown (grown state seen))
  found environment outer limit healthy available inTime := by
    rw [Machine.perform_of_inTime healthy available inTime, StoreCall.program_action, lookUp_solo]
    exact congrArg Ending.finished (lookUpOn_of_stored distinct stored)

end Storefront
