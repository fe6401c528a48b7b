/-
**Stored accounts.**

How accounts are kept in the database, and the operations on them.  `AccountStore` is what the rest of the
program knows of them; `AccountStore.inDatabase` keeps them in the table `accounts`.

Main statement: `ofRow_row` — the row of an account is read back as the account.
-/

import Storefront.Account.Basic
import Storefront.Database.Field
import Storefront.Database.Server
import Storefront.Store.Action

namespace Storefront

/-! ### Rows -/

/-- The cells of an account, in the order of the columns. -/
def Account.cells (account : Account) : List Cell :=
  [.uuid account.id, .text account.email, .optional .text account.fullName,
    .optional .date account.dateOfBirth, .optional .text account.location,
    .integer account.gender.code, .instant account.createdAt, .instant account.updatedAt]

/-- The gender in a cell, if the cell holds the number of one. -/
def Gender.ofCell? : Cell → Option Gender
  | .integer code => ofCode? code
  | _ => none

/-- The account that a row holds. The first column that cannot be read is the error. -/
def Account.ofRow (row : Row) : Except DriverError Account := do
  return {
    id := ← row.read "id" Row.uuid?
    email := ← row.read "email" Row.text?
    fullName := ← row.read "full_name" (Row.optional? Row.text?)
    dateOfBirth := ← row.read "date_of_birth" (Row.optional? Row.date?)
    location := ← row.read "location" (Row.optional? Row.text?)
    gender := ← row.read "gender" Gender.ofCell?
    createdAt := ← row.read "created_at" Row.instant?
    updatedAt := ← row.read "updated_at" Row.instant? }

/-- The row of an account, as it is sent. -/
def Account.row (account : Account) : Row := Table.accounts.columns.zip account.cells

theorem Row.optional?_text (value : Option String) :
    Row.optional? Row.text? (.optional .text value) = some value := by
  cases value <;> rfl

theorem Row.optional?_date (value : Option Date) :
    Row.optional? Row.date? (.optional .date value) = some value := by
  cases value <;> rfl

theorem Account.ofRow_row (account : Account) : Account.ofRow account.row = .ok account := by
  have gender : Gender.ofCell? (.integer account.gender.code) = some account.gender :=
    Gender.ofCode?_eq_some_iff.mpr rfl
  simp [Account.ofRow, Account.row, Account.cells, Table.columns, Row.read, List.lookup_cons, gender,
    Row.optional?_text, Row.optional?_date, Row.uuid?, Row.text?, Row.instant?, bind, Except.bind,
    pure, Except.pure]

/-! ### Operations -/

/-- The operations on stored accounts. -/
structure AccountStore (m : Type → Type) where
  byId : Uuid → m (Except StoreError Account)
  byEmail : String → m (Except StoreError Account)
  create : Option NewAccount → m (Except StoreError Account)

namespace AccountStore

/-- Finds the account with a value in a column; `key` names it if there is none. -/
def find (column : String) (value : Cell) (key : String) : Operation Account := do
  Operation.connect .ofDriver
  let rows ← Operation.send .ofDriver (.select .accounts (.equals column 1) [] none) [value]
  Operation.firstRow .ofDriver (.notFound "Account" key) Account.ofRow rows

/-- Adds an account and reads it back from the row that the database answers. -/
def add (input : NewAccount) : Operation Account := do
  let now ← Operation.readClock
  let id ← Operation.freshId
  let added := Statement.insert .accounts [(Account.register input id now).cells] true
  Operation.connect .ofDriver
  let rows ← Operation.send .ofDriver added.query added.values
  Operation.firstRow .ofDriver (.ofDriver .rowNotFound) Account.ofRow rows

/-- Accounts in the database, with a limit for each operation. -/
def inDatabase (limit : Option Duration) : AccountStore Action where
  byId id := Operation.within limit (find "id" (.uuid id) id.text)
  byEmail email := Operation.within limit (find "email" (.text email) email)
  create
    | none => .answered (.error .nilEntity)
    | some input => Operation.within limit (add input)

end AccountStore

end Storefront
