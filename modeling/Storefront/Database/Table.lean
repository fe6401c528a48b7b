/-
**Tables.**

The database has four tables.  `Tables` holds their rows, each table in the order in which its rows
were added.  Rows are only ever added, so what a change does is a `Tables` of its own, and `Tables.append`
makes it part of others.

Main statement: `rows_append` — a table of the sum has the rows of the first and then those of the second.
-/

import Storefront.Database.Cell

namespace Storefront

/-- A table of the database. -/
inductive Table
  | accounts
  | items
  | orders
  | orderItems
deriving DecidableEq, Repr

namespace Table

/-- The name of a table in the schema. -/
def name : Table → String
  | accounts => "accounts"
  | items => "items"
  | orders => "orders"
  | orderItems => "order_items"

/-- The columns of a table, in the order in which an `INSERT` names them. -/
def columns : Table → List String
  | accounts =>
    ["id", "email", "full_name", "date_of_birth", "location", "gender", "created_at", "updated_at"]
  | items => ["id", "title", "description", "price", "created_at", "updated_at"]
  | orders => ["id", "account_id", "created_at", "updated_at"]
  | orderItems =>
    ["id", "order_id", "item_id", "quantity", "position", "created_at", "updated_at"]

end Table

/-- The rows of the four tables. -/
structure Tables where
  accounts : List Row := []
  items : List Row := []
  orders : List Row := []
  orderItems : List Row := []
deriving DecidableEq

namespace Tables

/-- The rows of one table. -/
def rows (tables : Tables) : Table → List Row
  | .accounts => tables.accounts
  | .items => tables.items
  | .orders => tables.orders
  | .orderItems => tables.orderItems

/-- Tables with rows in one of them only. -/
def only (rows : List Row) : Table → Tables
  | .accounts => { accounts := rows }
  | .items => { items := rows }
  | .orders => { orders := rows }
  | .orderItems => { orderItems := rows }

/-- The rows of two tables, the first ones in front. -/
def append (first second : Tables) : Tables where
  accounts := first.accounts ++ second.accounts
  items := first.items ++ second.items
  orders := first.orders ++ second.orders
  orderItems := first.orderItems ++ second.orderItems

instance : Append Tables := ⟨append⟩

/-- Tables without any rows. -/
def empty : Tables := {}

theorem append_def (first second : Tables) :
    first ++ second = {
      accounts := first.accounts ++ second.accounts
      items := first.items ++ second.items
      orders := first.orders ++ second.orders
      orderItems := first.orderItems ++ second.orderItems } := rfl

/-- A table of the sum has the rows of the first and then those of the second. -/
@[simp]
theorem rows_append (first second : Tables) (table : Table) :
    (first ++ second).rows table = first.rows table ++ second.rows table := by
  cases table <;> rfl

@[simp]
theorem rows_empty (table : Table) : empty.rows table = [] := by
  cases table <;> rfl

@[simp]
theorem append_empty (tables : Tables) : tables ++ empty = tables := by
  simp [append_def, empty]

theorem append_assoc (first second third : Tables) :
    first ++ second ++ third = first ++ (second ++ third) := by
  simp [append_def]

@[simp]
theorem rows_only_self (rows : List Row) (table : Table) : (only rows table).rows table = rows := by
  cases table <;> rfl

theorem rows_only_ne {table other : Table} (different : other ≠ table) (rows : List Row) :
    (only rows table).rows other = [] := by
  cases table <;> cases other <;> simp_all [only, Tables.rows]

end Tables

end Storefront
