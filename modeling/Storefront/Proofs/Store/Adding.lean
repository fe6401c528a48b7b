/-
**Looking up and adding single rows.**

An account or an item is looked up by one statement and added by one statement, without a
transaction.  Such a statement adds the row at once, if the server lets it in.

Main statements:

* `AccountStore.find_keeps`, `ItemStore.find_keeps`: whatever others do, a row that is looked up is
  what one state holds;
* `AccountStore.find_solo`, `ItemStore.find_solo`: undisturbed, it is what the tables hold;
* `AccountStore.add_keeps`, `ItemStore.add_keeps`: adding a row obeys the rule for statements, and
  the record that is returned is read from the row that has been added.
-/

import Storefront.Proofs.Store.Reading
import Storefront.Store.Health

namespace Storefront

open Storefront.Text

namespace Operation

variable [Collation] {α : Type} {view : View} {fail : DriverError → StoreError} {missing : StoreError}
  {read : Row → Except DriverError α}

/-- The record of the first row that a statement finds in the tables. -/
def lookUpOn (statement : Statement) (missing : StoreError) (read : Row → Except DriverError α)
    (tables : Tables) : Except StoreError α :=
  match statement.rowsOn tables with
  | [] => .error missing
  | row :: _ => (read row).mapError .ofDriver

/-- One look at the tables for the first row finds what they hold then. -/
theorem keeps_lookUp {query : Query} {values : List Cell} (looks : query.looks = true) :
    (do
      connect .ofDriver
      let rows ← send .ofDriver query values
      firstRow .ofDriver missing read rows : Operation α).run.Keeps .anywhere
        (ReadPost (lookUpOn ⟨query, values⟩ missing read)) view := by
  rw [keeps_bind]
  refine keeps_connect_reading (fun cause _ => readPost_ofDriver cause) fun connected held => ?_
  rw [Onwards, keeps_bind]
  refine keeps_look held looks (fun cause _ => readPost_ofDriver cause) fun found _ _ seen => ?_
  have met : found.tables ∈ found.seen := seen ▸ List.mem_append_right _ (List.mem_singleton_self _)
  have same : lookUpOn ⟨query, values⟩ missing read found.tables =
      match (⟨query, values⟩ : Statement).rowsOn found.tables with
      | [] => .error missing
      | row :: _ => (read row).mapError .ofDriver := rfl
  rw [Onwards]
  cases rows : (⟨query, values⟩ : Statement).rowsOn found.tables with
  | nil =>
    rw [rows] at same
    exact fun _ => ⟨found.tables, met, same⟩
  | cons row others =>
    rw [rows] at same
    exact fun _ => ⟨found.tables, met, same⟩

/-- Undisturbed, a look at the tables for the first row finds what they hold. -/
theorem solo_lookUp {id : Nat → Uuid} {clock : Nat → Int} {query : Query} {values : List Cell}
    (looks : query.looks = true) (accepted : (⟨query, values⟩ : Statement).refused? = none)
    (solo : Solo) :
    ((do
      connect .ofDriver
      let rows ← send .ofDriver query values
      firstRow .ofDriver missing read rows : Operation α).run.solo id clock solo).1 =
        lookUpOn ⟨query, values⟩ missing read solo.tables := by
  obtain ⟨connected, connects, same, looking⟩ := solo_connect_looking
  rw [solo_bind, connects]
  dsimp only
  obtain ⟨found, finds, _, _⟩ := solo_look query values looking looks accepted
  rw [solo_bind, finds, same, lookUpOn]
  cases (⟨query, values⟩ : Statement).rowsOn solo.tables with
  | nil => rfl
  | cons row others => rfl

end Operation

/-- Where a program can be dropped that adds its rows by its last statement: before that it has added
nothing. -/
def Cut.untouched : Cut := fun statement view => statement = none → view.added = .empty

/-- Where a program can be dropped that adds one row by its last statement: it has added nothing, or
that statement has added the row. -/
def Cut.oneRow (table : Table) (cells : List Cell) : Cut := fun statement view =>
  view.added = .empty ∨ statement ≠ none ∧ view.added = .only [table.kept cells] table

theorem Cut.untouched_of_oneRow {table : Table} {cells : List Cell} {statement : Option Statement}
    {view : View} (kept : oneRow table cells statement view) : untouched statement view := by
  intro standing
  obtain nothing | ⟨unheard, _⟩ := kept
  · exact nothing
  · exact absurd standing unheard

namespace Operation

variable {α : Type} {view : View} {fail : DriverError → StoreError} {missing : StoreError}
  {read : Row → Except DriverError α}

/-- What adding one row leads to: the record that is read from it, or an error and no row. -/
def RowPost (table : Table) (cells : List Cell) (read : Row → Except DriverError α)
    (result : Except StoreError α) (view : View) : Prop :=
  view.added = .only [table.kept cells] table ∧
      result = (read (table.kept cells)).mapError .ofDriver ∨
    view.added = .empty ∧ ∃ cause, result = .error cause

/-- One row that is added to a table at once. -/
theorem keeps_oneRow [Collation] {table : Table} {cells : List Cell}
    (lawful : ∀ tables, checkRows tables table [table.kept cells] = .ok () →
      Addition tables (.only [table.kept cells] table) ∧
      (Tables.only [table.kept cells] table).orders = [] ∧
        (Tables.only [table.kept cells] table).orderItems = []) (nothing : view.added = .empty) :
    (do
      connect .ofDriver
      let rows ← send .ofDriver (Statement.insert table [cells] true).query
        (Statement.insert table [cells] true).values
      firstRow .ofDriver missing read rows : Operation α).run.Keeps (.oneRow table cells)
        (RowPost table cells read) view := by
  have fails : ∀ cause (after : View), after.added = .empty →
      RowPost table cells read (.error cause) after := fun _ _ nothing => Or.inr ⟨nothing, _, rfl⟩
  rw [keeps_bind, keeps_connect]
  intro tables _
  refine ⟨Or.inl nothing, ?_, fun cause => fails _ _ nothing⟩
  rw [Onwards, keeps_bind]
  refine keeps_send_of_held rfl (fun _ _ => Or.inl nothing) ?_ ?_
  · intro tables _ broken
    have nothing : ({ view with connection := some {} } : View).added ++ Tables.empty = .empty := by
      rw [Tables.append_empty]
      exact nothing
    exact ⟨Or.inl nothing, fun cause => fails _ _ nothing⟩
  intro tables _ rows effect carried added
  rw [← show execute tables none (Statement.insert table [cells] true) = effect from carried] at added ⊢
  have total : ∀ rows : Tables, view.added ++ rows = rows := fun rows => by
    rw [nothing, Tables.empty_append]
  cases checked : checkRows tables table [table.kept cells] with
  | error report =>
    have refused : execute tables none (Statement.insert table [cells] true) =
      .refuse report tables none :=
      execute_insert_error rfl checked
    rw [refused] at added ⊢
    obtain rfl : rows = .empty := Tables.append_eq_self_iff.mp added.symm
    exact ⟨Or.inl rfl, Or.inl (total _), fails _ _ (total _)⟩
  | ok done =>
    have carried : execute tables none (Statement.insert table [cells] true) =
        .added table [table.kept cells] [table.kept cells] tables none := execute_insert_ok rfl checked
    rw [carried] at added ⊢
    obtain rfl : _ = rows := Tables.append_left_cancel added
    obtain ⟨addition, orders, lines⟩ := lawful tables checked
    exact ⟨Or.inr ⟨addition, Or.inl ⟨orders, lines⟩⟩, Or.inr ⟨Option.some_ne_none _, total _⟩,
      Or.inl ⟨total _, rfl⟩⟩

/-- One row for a new record, which has an identifier and the time. -/
theorem keeps_register [Collation] {table : Table} {cells : Uuid → Timestamp → List Cell}
    (lawful : ∀ id now tables, checkRows tables table [table.kept (cells id now)] = .ok () →
      Addition tables (.only [table.kept (cells id now)] table) ∧
      (Tables.only [table.kept (cells id now)] table).orders = [] ∧
        (Tables.only [table.kept (cells id now)] table).orderItems = []) (nothing : view.added = .empty) :
    (do
      let now ← readClock
      let id ← freshId
      let added := Statement.insert table [cells id now] true
      connect .ofDriver
      let rows ← send .ofDriver added.query added.values
      firstRow .ofDriver missing read rows : Operation α).run.Keeps
        (fun statement view => ∃ id now, Cut.oneRow table (cells id now) statement view)
        (fun result view => ∃ id now, RowPost table (cells id now) read result view) view := by
  rw [keeps_bind, keeps_readClock]
  refine fun _ _ => ⟨⟨.numbered 0, ⟨0⟩, Or.inl nothing⟩, fun nanos => ?_⟩
  rw [Onwards, keeps_bind, keeps_freshId]
  refine fun _ _ => ⟨⟨.numbered 0, ⟨0⟩, Or.inl nothing⟩, fun id => ?_⟩
  refine Program.Keeps.mono (keeps_oneRow (lawful id (.ofClock nanos)) nothing) ?_ ?_
  · exact fun _ _ kept => ⟨id, .ofClock nanos, kept⟩
  · exact fun _ _ kept => ⟨id, .ofClock nanos, kept⟩

/-- A record that is returned is read from the row that has been added. -/
theorem RowPost.read_eq {table : Table} {cells : List Cell} {result : Except StoreError α} {value : α}
    (kept : RowPost table cells read result view) (returned : result = .ok value) :
    view.added = .only [table.kept cells] table ∧ read (table.kept cells) = .ok value := by
  subst returned
  obtain ⟨added, same⟩ | ⟨_, cause, failed⟩ := kept
  · exact ⟨added, mapError_eq_ok_iff.mp same.symm⟩
  · cases failed

end Operation

section Stores

variable {view : View}

/-- The account that the tables hold under a value in a column. -/
def AccountStore.findOn [Collation] (column : String) (value : Cell) (key : String) :
    Tables → Except StoreError Account :=
  Operation.lookUpOn ⟨.select .accounts (.equals column 1) [] none, [value]⟩ (.notFound "Account" key)
    Account.ofRow

/-- The item that the tables hold under an identifier. -/
def ItemStore.findOn [Collation] (id : Uuid) : Tables → Except StoreError Item :=
  Operation.lookUpOn ⟨.select .items (.equals "id" 1) [] none, [.uuid id]⟩ (.notFound "Item" id.text)
    Item.ofRow

/-- Whatever others do, an account, or that there is none, is what one state holds. -/
theorem AccountStore.find_keeps [Collation] (column : String) (value : Cell) (key : String) :
    (find column value key).run.Keeps .anywhere (ReadPost (findOn column value key)) view :=
  Operation.keeps_lookUp rfl

/-- Undisturbed, the account under an identifier is what the tables hold. -/
theorem AccountStore.find_solo [Collation] {ids : Nat → Uuid} {clock : Nat → Int} (id : Uuid)
    (key : String) (solo : Solo) :
    ((find "id" (.uuid id) key).run.solo ids clock solo).1 = findOn "id" (.uuid id) key solo.tables :=
  Operation.solo_lookUp rfl rfl solo

/-- Whatever others do, an item, or that there is none, is what one state holds. -/
theorem ItemStore.find_keeps [Collation] (id : Uuid) :
    (find id).run.Keeps .anywhere (ReadPost (findOn id)) view :=
  Operation.keeps_lookUp rfl

/-- Undisturbed, the item is what the tables hold. -/
theorem ItemStore.find_solo [Collation] {ids : Nat → Uuid} {clock : Nat → Int} (id : Uuid)
    (solo : Solo) :
    ((find id).run.solo ids clock solo).1 = findOn id solo.tables :=
  Operation.solo_lookUp rfl rfl solo

/-- An account is made without white space around its email address. -/
theorem Account.tidy_register (input : NewAccount) (id : Uuid) (now : Timestamp) :
    trimmed (register input id now).email = (register input id now).email := by
  unfold register trimmed
  dsimp only
  rw [String.toList_ofList, trim_trim]

/-- What making an account leads to: an account that is returned is read from the row that has been
added. -/
def AccountStore.addPost (result : Except StoreError Account) (view : View) : Prop :=
  ∀ account, result = .ok account → ∃ made : Account,
    view.added = .only [made.kept] .accounts ∧ Account.ofRow made.kept = .ok account

variable [Collation]

/-- Adding an account adds the row of the account that the input describes, or nothing. -/
theorem AccountStore.add_registers (input : NewAccount) (nothing : view.added = .empty) :
    (add input).run.Keeps
      (fun statement view => ∃ id now,
        Cut.oneRow .accounts (Account.register input id now).cells statement view)
      (fun result view => ∃ id now,
        Operation.RowPost .accounts (Account.register input id now).cells Account.ofRow result view)
      view := by
  refine Operation.keeps_register (fun id now tables fits => ⟨?_, rfl, rfl⟩) nothing
  exact .account (Account.register input id now) (Account.tidy_register _ _ _) fits

/-- Adding an account obeys the rule for statements. -/
theorem AccountStore.add_keeps (input : NewAccount) (nothing : view.added = .empty) :
    (add input).run.Keeps .untouched addPost view := by
  refine (add_registers input nothing).mono ?_ ?_
  · rintro statement after ⟨id, now, kept⟩
    exact Cut.untouched_of_oneRow kept
  · rintro result after ⟨id, now, kept⟩ account returned
    exact ⟨_, kept.read_eq returned⟩

/-- What making an item leads to: an item that is returned is read from the row that has been
added. -/
def ItemStore.addPost (result : Except StoreError Item) (view : View) : Prop :=
  ∀ item, result = .ok item → ∃ made : Item,
    view.added = .only [made.kept] .items ∧ Item.ofRow made.kept = .ok item

/-- Adding an item adds the row of the item that the input describes, or nothing. -/
theorem ItemStore.add_registers (input : NewItem) (nothing : view.added = .empty) :
    (add input).run.Keeps
      (fun statement view => ∃ id now,
        Cut.oneRow .items (Item.register input id now).cells statement view)
      (fun result view => ∃ id now,
        Operation.RowPost .items (Item.register input id now).cells Item.ofRow result view)
      view := by
  refine Operation.keeps_register (fun id now tables fits => ⟨?_, rfl, rfl⟩) nothing
  exact .item (Item.register input id now) fits

/-- Adding an item obeys the rule for statements. -/
theorem ItemStore.add_keeps (input : NewItem) (nothing : view.added = .empty) :
    (add input).run.Keeps .untouched addPost view := by
  refine (add_registers input nothing).mono ?_ ?_
  · rintro statement after ⟨id, now, kept⟩
    exact Cut.untouched_of_oneRow kept
  · rintro result after ⟨id, now, kept⟩ item returned
    exact ⟨_, kept.read_eq returned⟩

/-- Asking for the health of the database adds nothing. -/
theorem Health.ping_keeps : Health.ping.Keeps .anywhere Program.anyResult view := by
  unfold Health.ping
  rw [Program.keeps_bind]
  intro _ _
  refine ⟨trivial, ?_, fun cause => trivial⟩
  intro tables _
  refine ⟨trivial, fun answer rows connection exchange => ⟨?_, trivial, trivial⟩⟩
  cases exchange with
  | carriedOut added => exact Or.inl (Tables.append_eq_self_iff.mp added.symm)
  | refused report => exact Or.inl rfl
  | broken => exact Or.inl rfl

end Stores

end Storefront
