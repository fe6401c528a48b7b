/-
**Sound tables.**

`Tables.Sound` is what every table promises about its rows, and what the tables promise about each
other: identifiers and email addresses occur once, every reference leads somewhere, quantities are
positive, the lines of an order are numbered from zero, and email addresses have no white space
around them.  The server checks most of this, but not the numbers of the lines and not the white
space.

Main statements:

* `Tables.Distinct.add`, `Tables.Sound.add`: an addition keeps the promise;
* `Tables.Sound.grown`: so do any number of additions.
-/

import Storefront.Proofs.Database.Addition

namespace Storefront

open Storefront.Text

/-- The lines that belong to a row of the orders. -/
def Tables.linesOf (tables : Tables) (order : Row) : List Row :=
  tables.orderItems.filter fun line => line.get "order_id" == order.get "id"

/-- No identifier occurs twice in a table. -/
def Tables.Distinct (tables : Tables) : Prop :=
  ∀ table, ((tables.rows table).map fun row => row.get "id").Nodup

/-- What the tables promise about their rows. -/
structure Tables.Sound (tables : Tables) : Prop where
  distinct : tables.Distinct
  /-- Every order belongs to an account. -/
  owned : ∀ order ∈ tables.orders,
    ∃ account ∈ tables.accounts, order.get "account_id" = account.get "id"
  /-- Every line belongs to an order. -/
  placed : ∀ line ∈ tables.orderItems, ∃ order ∈ tables.orders, line.get "order_id" = order.get "id"
  /-- Every line is about an item. -/
  stocked : ∀ line ∈ tables.orderItems, ∃ item ∈ tables.items, line.get "item_id" = item.get "id"
  /-- Every line is about one or more of its item. -/
  positive : ∀ line ∈ tables.orderItems, ∃ quantity : Int,
    line.get "quantity" = .integer quantity ∧ 1 ≤ quantity
  /-- The positions of the lines of an order count from zero. -/
  numbered : ∀ order ∈ tables.orders,
    List.Perm ((tables.linesOf order).map fun line => line.get "position")
    ((List.range (tables.linesOf order).length).map fun position : Nat => .integer position)
  /-- No email address has white space around it. -/
  tidy : ∀ account ∈ tables.accounts, ∃ email, account.get "email" = .text email ∧ trimmed email = email
  /-- No email address occurs twice. -/
  emails : (tables.accounts.map fun account => account.get "email").Nodup

namespace Tables

variable {tables rows : Tables} {table : Table} {added : List Row}

/-! ### Identifiers -/

/-- Rows that the server lets into a table have identifiers of their own. -/
theorem Distinct.add_only (distinct : tables.Distinct)
    (fits : checkRows tables table added = .ok ())
    (filled : ∀ row ∈ added, (row.get "id").isNull = false) :
    (tables ++ .only added table).Distinct := by
  intro other
  rw [rows_append]
  by_cases same : other = table
  · subst same
    obtain ⟨name, unique⟩ : ∃ name, (name, ["id"]) ∈ other.uniqueKeys := by
      cases other with
      | accounts => exact ⟨_, List.mem_cons_self⟩
      | items => exact ⟨_, List.mem_cons_self⟩
      | orders => exact ⟨_, List.mem_cons_self⟩
      | orderItems => exact ⟨_, List.mem_cons_self⟩
    rw [rows_only_self]
    exact Table.nodup_of_checkEach unique filled (checkRows_eq_ok_iff.mp fits).1 (distinct other)
  · rw [rows_only_ne same, List.append_nil]
    exact distinct other

theorem Distinct.add (distinct : tables.Distinct) (addition : Addition tables rows) :
    (tables ++ rows).Distinct := by
  cases addition with
  | account account tidy fits =>
    refine distinct.add_only fits fun row member => ?_
    rw [List.mem_singleton.mp member, Account.kept_id]
    rfl
  | item item fits =>
    refine distinct.add_only fits fun row member => ?_
    rw [List.mem_singleton.mp member, Item.kept_id]
    rfl
  | order order numbered fits =>
    have headed : (tables ++ .only [order.header] .orders).Distinct := by
      refine distinct.add_only fits.header fun row member => ?_
      rw [List.mem_singleton.mp member, Order.header_id]
      rfl
    rw [← order.only_append, ← append_assoc]
    refine headed.add_only fits.lines fun row member => ?_
    obtain ⟨line, _, rfl⟩ := List.mem_map.mp member
    rw [OrderLine.kept_id]
    rfl

/-! ### Lines of orders -/

/-- Rows that the server lets in refer to rows that exist. -/
theorem exists_of_checkRows {name column : String} {referred : Table} {row : Row}
    (needed : (name, column, referred) ∈ table.references)
    (fits : checkRows tables table added = .ok ()) (member : row ∈ added) :
    ∃ other ∈ tables.rows referred, row.get column = other.get "id" :=
  Table.dangling?_eq_none_iff.mp ((checkRows_eq_ok_iff.mp fits).2 row member) _ needed

/-- The lines that refer to an order which is new are those that are added with it. -/
theorem Sound.filter_lines_eq (sound : tables.Sound) {order : Order} (numbered : order.Numbered)
    (new : ∀ row ∈ tables.orders, row.get "id" ≠ .uuid order.id) :
    ((tables ++ order.kept).orderItems.filter fun line => line.get "order_id" == .uuid order.id) =
      order.items.map OrderLine.kept := by
  have old : (tables.orderItems.filter fun line => line.get "order_id" == .uuid order.id) = [] := by
    rw [List.filter_eq_nil_iff]
    intro line member refers
    obtain ⟨other, there, same⟩ := sound.placed line member
    exact new other there (same.symm.trans (beq_iff_eq.mp refers))
  have own : ((order.items.map OrderLine.kept).filter fun line =>
      line.get "order_id" == .uuid order.id) = order.items.map OrderLine.kept := by
    rw [List.filter_eq_self]
    intro row member
    obtain ⟨line, inside, rfl⟩ := List.mem_map.mp member
    rw [OrderLine.kept_orderId, numbered.orderId_eq inside]
    exact beq_self_eq_true _
  rw [orderItems_append, List.filter_append, old, List.nil_append]
  exact own

/-- The other orders keep their lines. -/
theorem linesOf_old {order : Order} (numbered : order.Numbered) (fits : order.FitsIn tables)
    {row : Row} (member : row ∈ tables.orders) :
    (tables ++ order.kept).linesOf row = tables.linesOf row := by
  have foreign : ((order.items.map OrderLine.kept).filter fun line =>
      line.get "order_id" == row.get "id") = [] := by
    rw [List.filter_eq_nil_iff]
    intro added inside
    obtain ⟨line, own, rfl⟩ := List.mem_map.mp inside
    have new := fits.new member
    rw [OrderLine.kept_orderId, numbered.orderId_eq own]
    simpa using new.symm
  rw [linesOf, orderItems_append, List.filter_append]
  rw [show order.kept.orderItems = order.items.map OrderLine.kept from rfl, foreign,
    List.append_nil, linesOf]

/-- The positions of a numbered order are the numbers from zero on. -/
theorem positions_kept {order : Order} (numbered : order.Numbered) :
    (order.items.map OrderLine.kept).map (fun line => line.get "position") =
      (List.range order.items.length).map fun position : Nat => .integer position := by
  have positions := congrArg (List.map fun said : Uuid × Int => Cell.integer said.2) numbered
  rw [List.map_map, List.map_map] at positions
  rw [List.map_map]
  exact positions

/-! ### Soundness -/

theorem sound_empty : empty.Sound where
  distinct table := by cases table <;> exact List.nodup_nil
  owned := nofun
  placed := nofun
  stocked := nofun
  positive := nofun
  numbered := nofun
  tidy := nofun
  emails := List.nodup_nil

/-- A line that the server lets in is about one or more of its item. -/
theorem quantity_pos {line : OrderLine}
    (within : Table.orderItems.violatedBound? line.kept = none) :
    1 ≤ line.quantity := by
  unfold Table.violatedBound? at within
  rw [OrderLine.kept_quantity] at within
  dsimp only at within
  split at within
  · next positive => exact positive
  · cases within

/-- Accounts and items may be added without a thought for the orders. -/
theorem Sound.beside (sound : tables.Sound) (distinct : (tables ++ rows).Distinct)
    (orders : rows.orders = []) (lines : rows.orderItems = [])
    (tidy : ∀ account ∈ rows.accounts, ∃ email, account.get "email" = .text email ∧
      trimmed email = email)
    (emails : ((tables ++ rows).accounts.map fun account => account.get "email").Nodup) :
    (tables ++ rows).Sound := by
  have sameOrders : (tables ++ rows).orders = tables.orders := by
    rw [orders_append, orders, List.append_nil]
  have sameLines : (tables ++ rows).orderItems = tables.orderItems := by
    rw [orderItems_append, lines, List.append_nil]
  have linesOf : (tables ++ rows).linesOf = tables.linesOf := by
    funext order
    unfold Tables.linesOf
    rw [sameLines]
  refine
    { distinct, emails, owned := ?_, placed := ?_, stocked := ?_, positive := ?_, numbered := ?_,
      tidy := ?_ }
  · intro order member
    obtain ⟨account, there, refers⟩ := sound.owned order (sameOrders ▸ member)
    exact ⟨account, List.mem_append_left _ there, refers⟩
  · rw [sameOrders, sameLines]
    exact sound.placed
  · intro line member
    obtain ⟨item, there, refers⟩ := sound.stocked line (sameLines ▸ member)
    exact ⟨item, List.mem_append_left _ there, refers⟩
  · rw [sameLines]
    exact sound.positive
  · rw [sameOrders, linesOf]
    exact sound.numbered
  · intro account member
    rcases List.mem_append.mp member with old | new
    · exact sound.tidy account old
    · exact tidy account new

/-- An order may be added with all of its lines. -/
theorem Sound.add_order (sound : tables.Sound) {order : Order} (numbered : order.Numbered)
    (fits : order.FitsIn tables) : (tables ++ order.kept).Sound := by
  have accounts : (tables ++ order.kept).accounts = tables.accounts := List.append_nil _
  have items : (tables ++ order.kept).items = tables.items := List.append_nil _
  have headed : order.header ∈ (tables ++ order.kept).orders :=
    List.mem_append_right _ (List.mem_singleton_self _)
  refine { distinct := sound.distinct.add (.order order numbered fits), owned := ?_, placed := ?_,
           stocked := ?_, positive := ?_, numbered := ?_, tidy := ?_, emails := ?_ }
  · intro row member
    rw [accounts]
    rcases List.mem_append.mp member with old | new
    · exact sound.owned row old
    · have known : ∃ account ∈ tables.rows .accounts, row.get "account_id" = account.get "id" :=
        exists_of_checkRows (List.mem_singleton_self _) fits.header new
      exact known
  · intro row member
    rcases List.mem_append.mp member with old | new
    · obtain ⟨other, there, refers⟩ := sound.placed row old
      exact ⟨other, List.mem_append_left _ there, refers⟩
    · obtain ⟨line, own, rfl⟩ := List.mem_map.mp new
      exact ⟨order.header,
        headed, by rw [OrderLine.kept_orderId, numbered.orderId_eq own, Order.header_id]⟩
  · intro row member
    rw [items]
    rcases List.mem_append.mp member with old | new
    · exact sound.stocked row old
    · have known := exists_of_checkRows (List.mem_cons_of_mem _ (List.mem_singleton_self _))
        fits.lines new
      rwa [rows_append, rows_only_ne (by decide), List.append_nil] at known
  · intro row member
    rcases List.mem_append.mp member with old | new
    · exact sound.positive row old
    · have within := Table.violatedBound?_of_checkEach (checkRows_eq_ok_iff.mp fits.lines).1 new
      obtain ⟨line, own, rfl⟩ := List.mem_map.mp new
      exact ⟨line.quantity, line.kept_quantity, quantity_pos within⟩
  · intro row member
    rcases List.mem_append.mp member with old | new
    · rw [linesOf_old numbered fits old]
      exact sound.numbered row old
    · have lines : (tables ++ order.kept).linesOf order.header = order.items.map OrderLine.kept :=
        sound.filter_lines_eq numbered fun row there => fits.new there
      rw [List.mem_singleton.mp new, lines, positions_kept numbered, List.length_map]
  · rw [accounts]
    exact sound.tidy
  · rw [accounts]
    exact sound.emails

/-- No email address occurs twice when an addition has been let in. -/
theorem nodup_emails_add (emails : (tables.accounts.map fun account => account.get "email").Nodup)
    (addition : Addition tables rows) :
    ((tables ++ rows).accounts.map fun account => account.get "email").Nodup := by
  cases addition with
  | account account tidy fits =>
    have unique : ("uq_accounts_email", ["email"]) ∈ Table.accounts.uniqueKeys :=
      List.mem_cons_of_mem _ (List.mem_singleton_self _)
    refine Table.nodup_of_checkEach unique ?_ (checkRows_eq_ok_iff.mp fits).1 emails
    intro row member
    rw [List.mem_singleton.mp member, Account.kept_email]
    rfl
  | item item fits =>
    rw [accounts_append]
    exact (List.append_nil tables.accounts).symm ▸ emails
  | order order numbered fits =>
    rw [accounts_append]
    exact (List.append_nil tables.accounts).symm ▸ emails

/-- An addition keeps the promise of the tables. -/
theorem Sound.add (sound : tables.Sound) (addition : Addition tables rows) :
    (tables ++ rows).Sound := by
  have distinct := sound.distinct.add addition
  have emails := nodup_emails_add sound.emails addition
  cases addition with
  | account account tidy fits =>
    refine sound.beside distinct rfl rfl ?_ emails
    intro row member
    rw [List.mem_singleton.mp member]
    exact ⟨account.email, account.kept_email, tidy⟩
  | item item fits => exact sound.beside distinct rfl rfl nofun emails
  | order order numbered fits => exact sound.add_order numbered fits

/-- Growing keeps the promise of the tables. -/
theorem Sound.grown {later : Tables} (sound : tables.Sound) (grown : tables.Grown later) :
    later.Sound := by
  induction grown with
  | refl => exact sound
  | tail _ step ih =>
    obtain ⟨rows, addition, rfl⟩ := step
    exact ih.add addition

/-- Identifiers stay distinct when tables grow. -/
theorem Distinct.grown {later : Tables} (distinct : tables.Distinct) (grown : tables.Grown later) :
    later.Distinct := by
  induction grown with
  | refl => exact distinct
  | tail _ step ih =>
    obtain ⟨rows, addition, rfl⟩ := step
    exact ih.add addition

end Tables

end Storefront
