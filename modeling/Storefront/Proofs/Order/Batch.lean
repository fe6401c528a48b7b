/-
**Lines are added as they are given.**

All lines of an order are added by one statement.  Its text names the columns once and has a group of
placeholders for each line; the values travel beside it.  Three orders have to agree: that of the columns,
that of the values of a line, and that of the placeholders.  `OrderLine.valueIn` says which value a line has
in a column without any of them, and reading a row asks for its columns by their names.

Main statements:

* `OrderStore.run_addLines`: nothing is sent for no lines, and one statement for any others;
* `OrderStore.text_batch`, `OrderStore.value_batch`: its text, and the values for its placeholders;
* `OrderStore.seen_of_added`: the rows that are there when it has been carried out;
* `OrderStore.lines_added_as_given`: all of it, and that the rows are read back as the lines.
-/

import Storefront.Proofs.Order.Making
import Storefront.Proofs.Program.Transactions
import Storefront.Proofs.Store.Batches
import Storefront.Proofs.Store.Created
import Storefront.Proofs.Store.Holding
import Storefront.Proofs.Store.Lines

namespace Storefront

variable {environment : Environment} {limit : Option Duration} {session after : Session}
  {connection : Connection} {tables : Tables} {transaction : Option Transaction} {statement : Statement}
  {lines : List OrderLine}

/-! ### Values of a line -/

namespace OrderLine

/-- The value that a line has in a column. -/
def valueIn (line : OrderLine) : String → Cell
  | "id" => .uuid line.id
  | "order_id" => .uuid line.orderId
  | "item_id" => .uuid line.itemId
  | "quantity" => .integer line.quantity
  | "position" => .integer line.position
  | "created_at" => .instant line.createdAt
  | "updated_at" => .instant line.updatedAt
  | _ => .null

/-- The values of a line are those that it has in the columns, in their order. -/
theorem cells_eq (line : OrderLine) : line.cells = Table.orderItems.columns.map line.valueIn := by
  simp [cells, Table.columns, valueIn]

theorem map_kept (lines : List OrderLine) :
    (lines.map cells).map Table.orderItems.kept = lines.map kept := List.map_map

/-- A line is kept as it is exactly if its moments are whole microseconds. -/
theorem stored_eq_iff {line : OrderLine} : line.stored = line ↔ line.Timely := by
  constructor
  · intro same
    exact ⟨congrArg OrderLine.createdAt same, congrArg OrderLine.updatedAt same⟩
  · intro timely
    rw [stored, timely.createdAt, timely.updatedAt]

theorem map_stored_eq_iff : lines.map stored = lines ↔ ∀ line ∈ lines, line.Timely := by
  have each : lines.map stored = lines.map (fun line => line) ↔ ∀ line ∈ lines, line.stored = line :=
    List.map_inj_left
  rw [List.map_id'] at each
  exact each.trans (forall₂_congr fun _ _ => stored_eq_iff)

/-- The rows of lines are read back by the names of their columns. -/
theorem readAll_kept (lines : List OrderLine) :
    Row.readAll ofRow (lines.map kept) = .ok (lines.map stored) :=
  have back (line : OrderLine) : ofRow line.kept = .ok line.stored := ofRow_row line.stored
  Row.readAll_rows back lines

end OrderLine

/-! ### One statement -/

namespace Session

/-- The tables as the session sees them. -/
def seen (session : Session) : Tables :=
  visible session.machine.tables (session.connection.bind Connection.transaction)

theorem seen_of_held (held : session.connection = some connection) :
    session.seen = visible session.machine.tables connection.transaction := by
  unfold seen
  rw [held]
  rfl

/-- A statement that can reach the database reaches it, whatever becomes of it there. -/
theorem sent_send_of_held [Collation] (held : session.connection = some connection)
    (accepted : statement.refused? = none) :
    (session.send environment limit statement).1.machine.sent = session.machine.sent ++ [statement] := by
  rw [send_reached held accepted]
  cases environment.fate session.machine.sent statement <;> rfl

/-- A statement that has succeeded has been carried out. -/
theorem carried_of_answered [Collation] {rows : List Row} (held : session.connection = some connection)
    (accepted : statement.refused? = none)
    (answered : session.send environment limit statement = (after, .answer (.ok rows))) :
    (execute session.machine.tables connection.transaction statement).answer = .ok rows ∧
      after.seen = visible (execute session.machine.tables connection.transaction statement).tables
        (execute session.machine.tables connection.transaction statement).transaction := by
  have met := (send_reached held accepted).symm.trans answered
  cases fate : environment.fate session.machine.sent statement with
  | answered =>
    rw [fate] at met
    obtain ⟨rfl, replied⟩ := Prod.mk.inj met
    refine ⟨?_, rfl⟩
    have succeeded : (execute session.machine.tables connection.transaction statement).answer.mapError
        DriverError.refused = .ok rows := (answered_of_reply replied).2
    exact mapError_eq_ok_iff.mp succeeded
  | refused report =>
    rw [fate] at met
    exact absurd (Prod.mk.inj met).2 reply_error_ne
  | disconnected =>
    rw [fate] at met
    exact absurd (Prod.mk.inj met).2 reply_error_ne
  | silent =>
    rw [fate] at met
    cases met
  | crashed =>
    rw [fate] at met
    cases met

/-- Undisturbed and without a limit, the answer is that of the server. -/
theorem send_of_healthy [Collation] (healthy : environment.Healthy)
    (held : session.connection = some connection) (accepted : statement.refused? = none) :
    (session.send environment none statement).2 = .answer
      ((execute session.machine.tables connection.transaction statement).answer.mapError .refused) := by
  rw [send_reached held accepted, healthy]
  rfl

end Session

namespace OrderStore

/-! ### The statement -/

/-- The statement that adds lines. -/
def batch (lines : List OrderLine) : Statement :=
  .insert .orderItems (lines.map OrderLine.cells) false

/-- The text of the statement has a group of seven placeholders for each line. -/
theorem text_batch (lines : List OrderLine) :
    (batch lines).text =
      "INSERT INTO order_items (id, order_id, item_id, quantity, position, created_at, updated_at) VALUES "
        ++ listText ((List.range lines.length).map fun index =>
          groupText (List.range' (7 * index + 1) 7)) := by
  have groups : Statement.numberGroups 1 (lines.map OrderLine.cells) =
      (List.range lines.length).map fun index => List.range' (7 * index + 1) 7 := by
    rw [Statement.numberGroups_eq (OrderLine.wide_cells lines), List.length_map]
  have head : "INSERT INTO " ++ Table.orderItems.name ++ " (" ++ listText Table.orderItems.columns ++
      ") VALUES " =
      "INSERT INTO order_items (id, order_id, item_id, quantity, position, created_at, updated_at) VALUES "
      := by decide +kernel
  have text : (batch lines).text = "INSERT INTO " ++ Table.orderItems.name ++ " (" ++
      listText Table.orderItems.columns ++ ") VALUES " ++
        listText ((Statement.numberGroups 1 (lines.map OrderLine.cells)).map groupText) ++ "" := rfl
  rw [text, head, groups, List.map_map, String.append_empty]
  rfl

example : groupText (List.range' (7 * 1 + 1) 7) = "($8, $9, $10, $11, $12, $13, $14)" := by decide +kernel

/-- The values for the placeholders are those that the lines have in the columns. -/
theorem value_batch {index column : Nat} {line : OrderLine} {name : String}
    (there : lines[index]? = some line) (named : Table.orderItems.columns[column]? = some name) :
    (batch lines).value (7 * index + column + 1) = line.valueIn name := by
  have row : (lines.map OrderLine.cells)[index]? = some line.cells := by
    rw [List.getElem?_map, there]
    rfl
  refine Statement.value_insert (OrderLine.wide_cells lines) row ?_
  rw [line.cells_eq, List.getElem?_map, named]
  rfl

theorem length_values_batch (lines : List OrderLine) :
    (batch lines).values.length = 7 * lines.length :=
  OrderLine.length_flatten_cells lines

/-! ### Carrying it out -/

/-- The server takes the values of lines. -/
theorem refused?_batch (lines : List OrderLine) : (batch lines).refused? = none :=
  refused?_insert_lines lines

/-- The statement is carried out exactly if its transaction has not failed and nothing forbids its rows. -/
theorem answer_batch_iff [Collation] :
    (∃ rows, (execute tables transaction (batch lines)).answer = .ok rows) ↔
    (transaction.map Transaction.failed).getD false = false ∧
      checkRows (visible tables transaction) .orderItems (lines.map OrderLine.kept) = .ok () := by
  rw [← OrderLine.map_kept]
  exact execute_insert_answer_iff

theorem visible_batch [Collation] {answer : List Row}
    (added : (execute tables transaction (batch lines)).answer = .ok answer) :
    visible (execute tables transaction (batch lines)).tables
        (execute tables transaction (batch lines)).transaction =
      visible tables transaction ++ .only (lines.map OrderLine.kept) .orderItems := by
  rw [← OrderLine.map_kept]
  exact visible_execute_insert added

/-! ### Adding -/

/-- How adding lines ends, by what the program gets for its statement. -/
def addedEnding : Reply (Except DriverError (List Row)) → Ending (Except StoreError Unit)
  | .answer (.ok _) => .finished (.ok ())
  | .answer (.error cause) => .finished (.error (.transaction cause))
  | .late => .abandoned
  | .crashed => .crashed

theorem exists_of_addedEnding {reply : Reply (Except DriverError (List Row))}
    (ended : addedEnding reply = .finished (.ok ())) : ∃ rows, reply = .answer (.ok rows) := by
  rcases reply with (cause | rows) | _ | _
  · cases ended
  · exact ⟨rows, rfl⟩
  · cases ended
  · cases ended

/-- Nothing is sent for no lines. -/
theorem run_addLines_nil [Collation] :
    session.run environment limit (addLines []).run = (session, .finished (.ok ())) := rfl

/-- Any other lines are sent by one statement. -/
theorem run_addLines [Collation] (filled : lines ≠ []) :
    session.run environment limit (addLines lines).run =
      ((session.send environment limit (batch lines)).1,
        addedEnding (session.send environment limit (batch lines)).2) := by
  have one : (addLines lines).run = .ask (.send (batch lines)) fun answer =>
      (match answer with
        | .ok _ => .done (.ok ())
        | .error cause => .done (.error (.transaction cause)) : Program (Except StoreError Unit)) := by
    unfold addLines
    rw [List.isEmpty_eq_false_iff.mpr filled, if_neg Bool.false_ne_true]
    refine congrArg (Program.ask (.send (batch lines))) (funext fun answer => ?_)
    cases answer <;> rfl
  rw [one, Session.run_ask]
  have step : session.step environment limit (.send (batch lines)) =
      session.send environment limit (batch lines) := rfl
  rw [step]
  obtain ⟨after, reply⟩ := session.send environment limit (batch lines)
  rcases reply with (_ | _) | _ | _ <;> rfl

/-- The one statement is sent, whatever becomes of it. -/
theorem sent_run_addLines [Collation] (held : session.connection = some connection) :
    (session.run environment limit (addLines lines).run).1.machine.sent =
      session.machine.sent ++ if lines = [] then [] else [batch lines] := by
  by_cases empty : lines = []
  · rw [if_pos empty, empty, run_addLines_nil, List.append_nil]
  · rw [if_neg empty, run_addLines empty]
    exact Session.sent_send_of_held held (refused?_batch lines)

/-- Once lines have been added their rows are seen behind all others. -/
theorem seen_of_added [Collation] (held : session.connection = some connection)
    (added : session.run environment limit (addLines lines).run = (after, .finished (.ok ()))) :
    after.seen = session.seen ++ .only (lines.map OrderLine.kept) .orderItems := by
  by_cases empty : lines = []
  · rw [empty, run_addLines_nil] at added
    obtain ⟨rfl, -⟩ := Prod.mk.inj added
    rw [empty]
    exact (Tables.append_empty _).symm
  · rw [run_addLines empty] at added
    obtain ⟨rfl, ended⟩ := Prod.mk.inj added
    obtain ⟨rows, answered⟩ := exists_of_addedEnding ended
    obtain ⟨answer, seen⟩ := Session.carried_of_answered held (refused?_batch lines)
      (Prod.ext rfl answered)
    rw [seen, Session.seen_of_held held, visible_batch answer]

/-- Undisturbed, lines are added exactly if the transaction has not failed and nothing forbids them. -/
theorem added_iff_of_healthy [Collation] (healthy : environment.Healthy)
    (held : session.connection = some connection) (filled : lines ≠ []) :
    (session.run environment none (addLines lines).run).2 = .finished (.ok ()) ↔
      (connection.transaction.map Transaction.failed).getD false = false ∧
        checkRows session.seen .orderItems (lines.map OrderLine.kept) = .ok () := by
  rw [run_addLines filled, Session.send_of_healthy healthy held (refused?_batch lines),
    Session.seen_of_held held, ← answer_batch_iff]
  constructor
  · intro ended
    obtain ⟨rows, answered⟩ := exists_of_addedEnding ended
    exact ⟨rows, mapError_eq_ok_iff.mp (Reply.answer.inj answered)⟩
  · rintro ⟨rows, answer⟩
    rw [answer]
    rfl

/-- Lines whose values are more than a statement can have are not added. -/
theorem run_addLines_of_crowded [Collation] {capacity : Nat}
    (held : session.connection = some connection) (crowded : capacity < 7 * lines.length) :
    (session.run (environment.withCapacity capacity) none (addLines lines).run).2 =
      .finished (.error (.transaction (.refused ⟨none, none, "too many arguments for query"⟩))) := by
  have filled : lines ≠ [] := by
    rintro rfl
    exact absurd crowded (Nat.not_lt_zero capacity)
  have refused : ∀ sent, (environment.withCapacity capacity).fate sent (batch lines) =
      .refused ⟨none, none, "too many arguments for query"⟩ :=
    fun _ => if_neg (Nat.not_le.mpr (length_values_batch lines ▸ crowded))
  rw [run_addLines filled, Session.send_reached held (refused?_batch lines), refused]
  rfl

/-! ### As given -/

/-- The statement adds the lines as they are given: its placeholders count from one without a gap, seven for
each line, and each stands for the value that its line has in its column. -/
structure Gives (statement : Statement) (lines : List OrderLine) : Prop where
  text : statement.text =
    "INSERT INTO order_items (id, order_id, item_id, quantity, position, created_at, updated_at) VALUES "
      ++ listText ((List.range lines.length).map fun index => groupText (List.range' (7 * index + 1) 7))
  length_values : statement.values.length = 7 * lines.length
  value : ∀ (index column : Nat) (line : OrderLine) (name : String), lines[index]? = some line →
    Table.orderItems.columns[column]? = some name →
      statement.value (7 * index + column + 1) = line.valueIn name

theorem gives_batch (lines : List OrderLine) : Gives (batch lines) lines where
  text := text_batch lines
  length_values := length_values_batch lines
  value _ _ _ _ := value_batch

/-- **Lines are added as they are given.** Nothing is sent for no lines, and for any others one statement
that gives them.  Once they have been added, their rows stand behind all others and are read back as the
lines: each field as its column keeps it, so that they are the lines themselves if and only if these are of
whole microseconds, as all lines are that the program makes.  On a database that nothing disturbs, lines are
added unless their transaction has failed or something forbids their rows. -/
theorem lines_added_as_given [Collation] {ending : Ending (Except StoreError Unit)}
    (held : session.connection = some connection)
    (added : session.run environment limit (addLines lines).run = (after, ending)) :
    (∃ statement, Gives statement lines ∧
      after.machine.sent = session.machine.sent ++ if lines = [] then [] else [statement]) ∧
    (ending = .finished (.ok ()) → ∃ rows, after.seen = session.seen ++ .only rows .orderItems ∧
      Row.readAll OrderLine.ofRow rows = .ok (lines.map OrderLine.stored) ∧
      (Row.readAll OrderLine.ofRow rows = .ok lines ↔ ∀ line ∈ lines, line.Timely)) ∧
    (environment.Clocked → ∀ (earlier : Session) (outer : Option Duration) orderId wishes,
      (earlier.run environment outer (makeLines orderId wishes).run).2 = .finished (.ok lines) →
        ∀ line ∈ lines, line.Timely) ∧
    (environment.Healthy → limit = none → lines ≠ [] → (ending = .finished (.ok ()) ↔
      (connection.transaction.map Transaction.failed).getD false = false ∧
        checkRows session.seen .orderItems (lines.map OrderLine.kept) = .ok ())) := by
  refine ⟨⟨batch lines, gives_batch lines, ?_⟩, ?_, ?_, ?_⟩
  · rw [← sent_run_addLines held, added]
  · rintro rfl
    have read := OrderLine.readAll_kept lines
    refine ⟨_, seen_of_added held added, read, ?_⟩
    rw [read, ← OrderLine.map_stored_eq_iff]
    exact ⟨Except.ok.inj, congrArg Except.ok⟩
  · intro clocked earlier outer orderId wishes finished
    exact Session.run_yields clocked.whole yields_makeLines earlier finished lines rfl
  · rintro healthy rfl filled
    rw [← added_iff_of_healthy healthy held filled, added]

/-- A session whose transaction has just begun. -/
def openSession : Session := { machine := { tables := .mixed }, connection := some ⟨some {}, true⟩ }

/-- Two lines for an order that has none. -/
def newLines : List OrderLine :=
  [⟨.numbered 70, .numbered 7, .numbered 2, 3, 0, ⟨1000⟩, ⟨2000⟩⟩,
    ⟨.numbered 71, .numbered 7, .numbered 2, 4, 1, ⟨3000⟩, ⟨4000⟩⟩]

theorem lines_added_as_given_sample : ∃ (after : Session) (rows : List Row),
    openSession.run .sample none (addLines newLines).run = (after, .finished (.ok ())) ∧
      after.machine.sent.length = 1 ∧ after.seen = openSession.seen ++ .only rows .orderItems ∧
      Row.readAll OrderLine.ofRow rows = .ok newLines := by
  obtain ⟨⟨statement, -, sent⟩, kept, -⟩ := lines_added_as_given
    (rfl : openSession.connection = some ⟨some {}, true⟩)
    (rfl : openSession.run .sample none (addLines newLines).run = (_, .finished (.ok ())))
  obtain ⟨rows, seen, -, read⟩ := kept rfl
  refine ⟨_, rows, rfl, congrArg List.length sent, seen, read.mpr fun line member => ?_⟩
  obtain rfl | member := List.mem_cons.mp member
  · exact ⟨rfl, rfl⟩
  · obtain rfl := List.mem_singleton.mp member
    exact ⟨rfl, rfl⟩

/-- A clock whose readings do not fit into a signed word of nanoseconds, so that they are not cut to whole
microseconds. -/
def uncutClock : Environment := { Environment.sample with clock := fun _ => 9223372800000001500 }

/-- More lines than one statement can hold. -/
def crowdedLines : List OrderLine :=
  (List.range 9363).map fun count =>
    ⟨.numbered (70 + count), .numbered 7, .numbered 2, 1, count, ⟨1000⟩, ⟨1000⟩⟩

/-- Not all lines are added as they are given. A line that the program makes late enough has moments that
are not of whole microseconds, and is read back as another one.  And lines may be too many for one
statement. -/
theorem lines_not_as_given :
    (∃ (lines : List OrderLine) (after : Session) (rows : List Row),
      (openSession.run uncutClock none (makeLines (.numbered 7) [(⟨.numbered 2, 3⟩, 0)]).run).2 =
        .finished (.ok lines) ∧
      openSession.run uncutClock none (addLines lines).run = (after, .finished (.ok ())) ∧
      after.seen = openSession.seen ++ .only rows .orderItems ∧
      Row.readAll OrderLine.ofRow rows ≠ .ok lines) ∧
    crowdedLines.length = 9363 ∧
      (openSession.run (.withCapacity Statement.maxValues .sample) none (addLines crowdedLines).run).2 =
        .finished (.error (.transaction (.refused ⟨none, none, "too many arguments for query"⟩))) := by
  have held : openSession.connection = some ⟨some {}, true⟩ := rfl
  have many : crowdedLines.length = 9363 := by rw [crowdedLines, List.length_map, List.length_range]
  obtain ⟨line, made, late⟩ : ∃ line : OrderLine,
      (openSession.run uncutClock none (makeLines (.numbered 7) [(⟨.numbered 2, 3⟩, 0)]).run).2 =
        .finished (.ok [line]) ∧ line.createdAt = ⟨9223372800000001500⟩ := ⟨_, rfl, rfl⟩
  obtain ⟨after, added⟩ : ∃ after, openSession.run uncutClock none (addLines [line]).run =
      (after, .finished (.ok ())) := by
    cases made
    exact ⟨_, rfl⟩
  refine ⟨⟨[line], after, _, made, added, seen_of_added held added, ?_⟩, many, ?_⟩
  · rw [OrderLine.readAll_kept]
    intro same
    have timely := OrderLine.map_stored_eq_iff.mp (Except.ok.inj same) _ List.mem_cons_self
    have cut : Timestamp.stored ⟨9223372800000001500⟩ = ⟨9223372800000001500⟩ :=
      late ▸ timely.createdAt
    exact absurd cut (by decide)
  · refine run_addLines_of_crowded held ?_
    rw [many]
    decide

end OrderStore

end Storefront
