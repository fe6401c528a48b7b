/-
**Orders as they are read.**

`OrderStore.findOn` is the order that given tables hold under an identifier, `OrderStore.listOn` is
a page of the orders of an account.

The two statements by which a single order is read may find different states.  The second one finds
the lines that were there when the first one found the order (`rowsOn_lines_grown`), so that the
answer is what the first of these states holds.

Main statements:

* `find_keeps`, `list_keeps`, `search_keeps`: whatever others do, an answer is what one state holds;
* `find_solo`, `list_solo`, `search_solo`: undisturbed, the answer is what the tables hold.
-/

import Storefront.Proofs.Store.Reading

namespace Storefront

/-! ### Rows that are read -/

theorem Row.read_eq_ok_iff {α : Type} {row : Row} {column : String} {value? : Cell → Option α}
    {value : α} :
    row.read column value? = .ok value ↔
      ∃ cell, row.lookup column = some cell ∧ value? cell = some value := by
  unfold read
  cases row.lookup column with
  | none => simp
  | some cell =>
    cases found : value? cell with
    | none => simp [found]
    | some other => simp [found]

theorem Row.get_of_read_uuid {row : Row} {column : String} {id : Uuid}
    (found : row.read column Row.uuid? = .ok id) :
    row.get column = .uuid id := by
  obtain ⟨cell, there, same⟩ := read_eq_ok_iff.mp found
  rw [get, there]
  cases cell with
  | uuid value => exact congrArg Cell.uuid (Option.some.inj same)
  | _ => cases same

/-- An order has the identifier of its row. -/
theorem Order.get_id_of_ofRow {row : Row} {order : Order} (read : ofRow row = .ok order) :
    row.get "id" = .uuid order.id := by
  obtain ⟨id, found, read⟩ := bind_eq_ok_iff.mp read
  obtain ⟨accountId, _, read⟩ := bind_eq_ok_iff.mp read
  obtain ⟨createdAt, _, read⟩ := bind_eq_ok_iff.mp read
  obtain ⟨updatedAt, _, read⟩ := bind_eq_ok_iff.mp read
  cases read
  exact Row.get_of_read_uuid found

namespace OrderStore

/-- The rows of one identifier are those with the identifier in the column. -/
theorem holds_among_singleton {query : Query} {column : String} {id : Uuid} {row : Row} :
    (Filter.among column 1).holds (Statement.value ⟨query, [.uuids [id]]⟩) row =
      (row.get column == .uuid id) := by
  rw [Filter.holds, show Statement.value ⟨query, [.uuids [id]]⟩ 1 = .uuids [id] from rfl]
  cases row.get column with
  | uuid other =>
    rw [Bool.eq_iff_iff]
    simp
  | _ => rfl

variable [Collation]

/-- The lines of an order that is in the tables are found again when the tables have grown. -/
theorem rowsOn_lines_grown {earlier later : Tables} (grown : earlier.Grown later) {id : Uuid}
    (there : ∃ row ∈ earlier.orders, row.get "id" = .uuid id) :
    Statement.rowsOn ⟨linesQuery, [.uuids [id]]⟩ later =
      Statement.rowsOn ⟨linesQuery, [.uuids [id]]⟩ earlier := by
  have filtered : ∀ tables : Tables,
      (tables.rows .orderItems).filter ((Filter.among "order_id" 1).holds
          (Statement.value ⟨linesQuery, [.uuids [id]]⟩)) =
        tables.orderItems.filter fun row => row.get "order_id" == .uuid id := by
    intro tables
    exact List.filter_congr fun row _ => holds_among_singleton
  unfold Statement.rowsOn
  change select _ _ _ _ _ _ = select _ _ _ _ _ _
  unfold select
  rw [filtered, filtered, grown.lines_eq there]

/-! ### What tables hold -/

/-- Orders with the lines that the tables hold for them. -/
def withLinesOn (orders : List Order) (tables : Tables) : Except DriverError (List Order) :=
  if orders.isEmpty then .ok orders
  else do
    let lines ← Row.readAll OrderLine.ofRow
      (Statement.rowsOn ⟨linesQuery, [.uuids (orders.map Order.id)]⟩ tables)
    return Order.attach lines orders

/-- The order that the tables hold under an identifier. -/
def findOn (id : Uuid) (tables : Tables) : Except StoreError Order :=
  match Statement.rowsOn ⟨.select .orders (.equals "id" 1) [] none, [.uuid id]⟩ tables with
  | [] => .error (.notFound "Order" id.text)
  | row :: _ => Except.mapError .ofDriver do
    let order ← Order.ofRow row
    let completed ← withLinesOn [order] tables
    return completed.headD order

/-- The page of the orders of an account that the tables hold. -/
def listOn (accountId : Uuid) (request : PageRequest) (terms : List OrderTerm) (tables : Tables) :
    Except StoreError (Page Order) :=
  Except.mapError .ofDriver do
    let total ← Row.readFirst
      (Statement.rowsOn ⟨.count .orders (.equals "account_id" 1), [.uuid accountId]⟩ tables)
        Row.integer?
    if total = 0 then return .empty
    else
      let orders ← Row.readAll Order.ofRow (Statement.rowsOn
        ⟨.select .orders (.equals "account_id" 1) terms (some ⟨2, 3⟩),
          .uuid accountId :: request.windowCells⟩ tables)
      let completed ← withLinesOn orders tables
      return .ofWindow completed total request.size

/-! ### Reading beside others -/

section Keeps

variable {view : View} {orders : List Order} {post : Except StoreError (List Order) → View → Prop}

/-- Orders get the lines that the state of the transaction holds. -/
theorem keeps_withLines_onSnapshot {state : Tables}
    (onSnapshot : Operation.OnSnapshot (some state) view) (met : state ∈ view.seen)
    (fails : ∀ cause after, post (.error (.ofDriver cause)) after)
    (completed : ∀ after completed, withLinesOn orders state = .ok completed → state ∈ after.seen →
      Operation.OnSnapshot (some state) after → post (.ok completed) after) :
    (withLines orders).run.Keeps .anywhere post view := by
  unfold withLines
  unfold withLinesOn at completed
  split
  · next zero =>
    rw [if_pos zero] at completed
    exact completed view orders rfl met onSnapshot
  · next positive =>
    rw [if_neg positive] at completed
    rw [Operation.keeps_bind]
    refine Operation.keeps_look_onSnapshot onSnapshot rfl ?_ fails ?_
    · rintro _ ⟨⟩
      exact met
    intro same selected known met onSnapshot
    cases known _ rfl
    rw [Operation.Onwards, Operation.keeps_bind, Operation.keeps_known]
    cases read : Row.readAll OrderLine.ofRow
        (Statement.rowsOn ⟨linesQuery, [.uuids (orders.map Order.id)]⟩ state) with
    | error cause => exact fails cause _
    | ok lines =>
      change Operation.Onwards _ _ _ (.ok _) _
      rw [Operation.Onwards, Operation.keeps_pure]
      rw [read] at completed
      exact completed selected _ rfl met onSnapshot

/-- Whatever others do, a page is what one state holds. -/
theorem list_keeps (accountId : Uuid) (request : PageRequest) (terms : List OrderTerm)
    (tables : Tables) :
    (list accountId request terms).run.Keeps .anywhere (ReadPost (listOn accountId request terms))
      { tables := tables } := by
  have fails : ∀ {α : Type} {next : α → Operation (Page Order)} cause after,
      Operation.Onwards .anywhere (ReadPost (listOn accountId request terms)) next
        (.error (.ofDriver cause))
        after := fun cause _ => readPost_ofDriver cause
  unfold list
  rw [Operation.keeps_bind]
  refine Operation.keeps_beginSnapshot fails fun begun onSnapshot => ?_
  rw [Operation.Onwards, Operation.keeps_bind]
  refine Operation.keeps_look_onSnapshot onSnapshot rfl (fun _ fixed => by cases fixed) fails ?_
  intro state counted _ met onSnapshot
  rw [Operation.Onwards, Operation.keeps_bind, Operation.keeps_known]
  cases total : Row.readFirst
      (Statement.rowsOn ⟨.count .orders (.equals "account_id" 1), [.uuid accountId]⟩ state)
        Row.integer? with
  | error cause => exact readPost_ofDriver cause
  | ok number =>
    change Operation.Onwards _ _ _ (.ok _) _
    rw [Operation.Onwards]
    by_cases zero : number = 0
    · rw [if_pos zero, Operation.keeps_bind]
      refine Operation.keeps_commit_onSnapshot onSnapshot fails fun ended kept => ?_
      rw [Operation.Onwards, Operation.keeps_pure]
      refine fun _ => ⟨state, kept state met, ?_⟩
      rw [listOn, total]
      change Except.mapError _ (if number = 0 then _ else _) = _
      rw [if_pos zero]
      rfl
    · rw [if_neg zero, Operation.keeps_bind]
      refine Operation.keeps_look_onSnapshot onSnapshot rfl ?_ fails ?_
      · rintro _ ⟨⟩
        exact met
      intro same selected known met onSnapshot
      cases known _ rfl
      rw [Operation.Onwards, Operation.keeps_bind, Operation.keeps_known]
      cases read : Row.readAll Order.ofRow (Statement.rowsOn
          ⟨.select .orders (.equals "account_id" 1) terms (some ⟨2, 3⟩),
            .uuid accountId :: request.windowCells⟩
          state) with
      | error cause => exact readPost_ofDriver cause
      | ok orders =>
        change Operation.Onwards _ _ _ (.ok _) _
        rw [Operation.Onwards, Operation.keeps_bind]
        refine keeps_withLines_onSnapshot onSnapshot met fails ?_
        intro attached completed complete met onSnapshot
        rw [Operation.Onwards, Operation.keeps_bind]
        refine Operation.keeps_commit_onSnapshot onSnapshot fails fun ended kept => ?_
        rw [Operation.Onwards, Operation.keeps_pure]
        refine fun _ => ⟨state, kept state met, ?_⟩
        rw [listOn, total]
        change Except.mapError _ (if number = 0 then _ else Row.readAll _ _ >>= _) = _
        rw [if_neg zero, read]
        change Except.mapError _ (withLinesOn orders state >>= _) = _
        rw [complete]
        rfl

/-- Whatever others do, an order, or that there is none, is what one state holds. -/
theorem find_keeps (id : Uuid) (tables : Tables) :
    (find id).run.Keeps .anywhere (ReadPost (findOn id)) { tables := tables } := by
  have fails : ∀ {α : Type} {next : α → Operation Order} cause after,
      Operation.Onwards .anywhere (ReadPost (findOn id)) next (.error (.ofDriver cause)) after :=
    fun cause _ => readPost_ofDriver cause
  unfold find
  rw [Operation.keeps_bind]
  refine Operation.keeps_connect_reading fails fun connected held => ?_
  rw [Operation.Onwards, Operation.keeps_bind]
  refine Operation.keeps_look held rfl fails ?_
  intro first _ held met
  rw [Operation.Onwards, Operation.keeps_bind]
  have inside : first.tables ∈ first.seen := met ▸ List.mem_append_right _ (List.mem_singleton_self _)
  cases found : Statement.rowsOn ⟨.select .orders (.equals "id" 1) [] none, [.uuid id]⟩
    first.tables with
  | nil =>
    refine fun _ => ⟨first.tables, inside, ?_⟩
    rw [findOn, found]
  | cons row others =>
    rw [Operation.firstRow, Operation.keeps_known]
    cases read : Order.ofRow row with
    | error cause => exact readPost_ofDriver cause
    | ok order =>
      have listed : row ∈ Statement.rowsOn ⟨.select .orders (.equals "id" 1) [] none, [.uuid id]⟩
        first.tables := by
        rw [found]
        exact List.mem_cons_self
      have there : ∃ row ∈ first.tables.orders, row.get "id" = .uuid order.id :=
        ⟨row, mem_rows_of_select listed, Order.get_id_of_ofRow read⟩
      change Operation.Onwards _ _ _ (.ok order) _
      rw [Operation.Onwards, Operation.keeps_bind]
      change Program.Keeps _ _ (Operation.send .ofDriver linesQuery [.uuids [order.id]] >>= _ :
        Operation (List Order)).run _
      rw [Operation.keeps_bind]
      refine Operation.keeps_look held rfl (fun cause _ => readPost_ofDriver cause) ?_
      intro second permitted _ met'
      rw [rowsOn_lines_grown permitted.1 there, Operation.Onwards, Operation.keeps_bind,
        Operation.keeps_known]
      cases lines : Row.readAll OrderLine.ofRow
          (Statement.rowsOn ⟨linesQuery, [.uuids [order.id]]⟩ first.tables) with
      | error cause => exact readPost_ofDriver cause
      | ok attached =>
        refine fun _ => ⟨first.tables, met' ▸ List.mem_append_left _ inside, ?_⟩
        rw [findOn, found]
        dsimp only
        rw [read]
        change Except.mapError _
          (Row.readAll _ (Statement.rowsOn ⟨linesQuery, [.uuids [order.id]]⟩ first.tables) >>=
          _ >>= _) = _
        rw [lines]
        rfl

end Keeps

/-! ### Reading undisturbed -/

section Undisturbed

variable {id : Nat → Uuid} {clock : Nat → Int}

/-- Undisturbed, orders get the lines that the tables hold. -/
theorem withLines_solo {orders : List Order} {solo : Solo} (looking : solo.Looking) :
    ∃ after, (withLines orders).run.solo id clock solo =
      ((withLinesOn orders solo.tables).mapError .ofDriver, after) ∧
      after.Looking := by
  unfold withLines withLinesOn
  split
  · exact ⟨solo, rfl, looking⟩
  · obtain ⟨after, sent, _, looking⟩ :=
      Operation.solo_look linesQuery [.uuids (orders.map Order.id)] looking rfl rfl
    refine ⟨after, ?_, looking⟩
    rw [Operation.solo_bind, sent]
    dsimp only
    rw [Operation.solo_bind, Operation.solo_known]
    cases Row.readAll OrderLine.ofRow
        (Statement.rowsOn ⟨linesQuery, [.uuids (orders.map Order.id)]⟩ solo.tables) with
    | error cause => rfl
    | ok lines => rfl

/-- Undisturbed, the order, or that there is none, is what the tables hold. -/
theorem find_solo (key : Uuid) (solo : Solo) :
    ((find key).run.solo id clock solo).1 = findOn key solo.tables := by
  unfold find findOn
  obtain ⟨connected, connects, same, looking⟩ := Operation.solo_connect_looking
  rw [Operation.solo_bind, connects]
  dsimp only
  obtain ⟨found, finds, same', looking⟩ :=
    Operation.solo_look (.select .orders (.equals "id" 1) [] none) [.uuid key] looking rfl rfl
  rw [Operation.solo_bind, finds]
  dsimp only
  rw [Operation.solo_bind, same]
  cases Statement.rowsOn ⟨.select .orders (.equals "id" 1) [] none, [.uuid key]⟩ solo.tables with
  | nil => rfl
  | cons row others =>
    dsimp only
    rw [Operation.firstRow, Operation.solo_known]
    cases Order.ofRow row with
    | error cause => rfl
    | ok order =>
      dsimp only [mapError_ok]
      obtain ⟨attached, attaches, _⟩ := withLines_solo looking
      rw [Operation.solo_bind, attaches, same', same]
      change _ = Except.mapError _ (withLinesOn [order] solo.tables >>= _)
      cases withLinesOn [order] solo.tables with
      | error cause => rfl
      | ok completed => rfl

/-- The window of the orders of an account, when they have been counted. -/
def cut (accountId : Uuid) (request : PageRequest) (terms : List OrderTerm) (total : Int) :
    Operation (Page Order) := do
  let rows ← Operation.send .ofDriver
    (.select .orders (.equals "account_id" 1) terms (some ⟨2, 3⟩))
    (.uuid accountId :: request.windowCells)
  let orders ← Operation.known .ofDriver (Row.readAll Order.ofRow rows)
  let completed ← withLines orders
  Operation.commit .ofDriver
  return .ofWindow completed total request.size

/-- The window of the orders of an account that the tables hold. -/
def cutOn (accountId : Uuid) (request : PageRequest) (terms : List OrderTerm) (total : Int)
    (tables : Tables) : Except DriverError (Page Order) := do
  let orders ← Row.readAll Order.ofRow (Statement.rowsOn
    ⟨.select .orders (.equals "account_id" 1) terms (some ⟨2, 3⟩),
      .uuid accountId :: request.windowCells⟩ tables)
  let completed ← withLinesOn orders tables
  return .ofWindow completed total request.size

theorem cut_solo (accountId : Uuid) (request : PageRequest) (terms : List OrderTerm) (total : Int)
    {solo : Solo} (looking : solo.Looking) :
    ((cut accountId request terms total).run.solo id clock solo).1 =
      (cutOn accountId request terms total solo.tables).mapError .ofDriver := by
  unfold cut cutOn
  obtain ⟨selected, selects, same, looking⟩ := Operation.solo_look
    (.select .orders (.equals "account_id" 1) terms (some ⟨2, 3⟩))
    (.uuid accountId :: request.windowCells) looking rfl request.refused?_windowCells
  rw [Operation.solo_bind, selects]
  dsimp only
  rw [Operation.solo_bind, Operation.solo_known]
  cases Row.readAll Order.ofRow (Statement.rowsOn
      ⟨.select .orders (.equals "account_id" 1) terms (some ⟨2, 3⟩),
        .uuid accountId :: request.windowCells⟩ solo.tables) with
  | error cause => rfl
  | ok orders =>
    dsimp only [mapError_ok]
    obtain ⟨attached, attaches, looking⟩ := withLines_solo looking
    rw [Operation.solo_bind, attaches, same]
    change _ = Except.mapError _ (withLinesOn orders solo.tables >>= _)
    cases withLinesOn orders solo.tables with
    | error cause => rfl
    | ok completed =>
      dsimp only [mapError_ok]
      obtain ⟨ended, commits⟩ := Operation.solo_commit looking
      rw [Operation.solo_bind, commits]
      rfl

/-- Undisturbed, the page is what the tables hold. -/
theorem list_solo (accountId : Uuid) (request : PageRequest) (terms : List OrderTerm)
    (solo : Solo) :
    ((list accountId request terms).run.solo id clock solo).1 =
      listOn accountId request terms solo.tables := by
  unfold list listOn
  obtain ⟨begun, begins, same, looking⟩ := Operation.solo_beginSnapshot
  rw [Operation.solo_bind, begins]
  dsimp only
  obtain ⟨counted, counts, same', looking⟩ :=
    Operation.solo_look (.count .orders (.equals "account_id" 1)) [.uuid accountId] looking rfl rfl
  rw [Operation.solo_bind, counts]
  dsimp only
  rw [Operation.solo_bind, Operation.solo_known, same]
  cases Row.readFirst
      (Statement.rowsOn ⟨.count .orders (.equals "account_id" 1), [.uuid accountId]⟩ solo.tables)
        Row.integer? with
  | error cause => rfl
  | ok number =>
    dsimp only [mapError_ok]
    change _ = Except.mapError _ (if number = 0 then _ else _)
    by_cases zero : number = 0
    · rw [if_pos zero, if_pos zero]
      obtain ⟨ended, commits⟩ := Operation.solo_commit looking
      rw [Operation.solo_bind, commits]
      rfl
    · rw [if_neg zero, if_neg zero]
      rw [← same, ← same']
      exact cut_solo accountId request terms number looking

end Undisturbed

/-- The answer to a call for a page of orders that the tables hold. -/
def searchOn (accountId : Uuid) (request : PageRequest) (tables : Tables) :
    Except StoreError (Page Order) :=
  match request.sort.check sortable with
  | .error cause => .error (.rejected (.sort cause))
  | .ok sort => listOn accountId request sort.terms tables

theorem search_keeps (accountId : Uuid) (request : PageRequest) (tables : Tables) :
    ((inDatabase none).search accountId request).program.Keeps .anywhere
      (ReadPost (searchOn accountId request))
      { tables := tables } := by
  unfold inDatabase searchOn
  dsimp only
  cases request.sort.check sortable with
  | error cause => exact fun settled => absurd settled (not_settled_rejected (.sort cause))
  | ok sort => exact list_keeps accountId request sort.terms tables

theorem search_solo {id : Nat → Uuid} {clock : Nat → Int} (accountId : Uuid)
    (request : PageRequest) (solo : Solo) :
    (((inDatabase none).search accountId request).program.solo id clock solo).1 =
      searchOn accountId request solo.tables := by
  unfold inDatabase searchOn
  dsimp only
  cases request.sort.check sortable with
  | error cause => rfl
  | ok sort => exact list_solo accountId request sort.terms solo

end OrderStore

end Storefront
