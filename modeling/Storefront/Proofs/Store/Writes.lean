/-
**What the calls of the stores send and add.**

A call adds rows only to the tables that it is about, and one account, one item or one order at most; a call
that reads adds nothing.

Main statements:

* `StoreCall.program_sends`: a call adds rows to its own tables only;
* `StoreCall.program_adds`: whatever others do and wherever it is dropped, a call has added no more
  than it may.
-/

import Storefront.Proofs.Program.Adds
import Storefront.Proofs.Program.Confined
import Storefront.Proofs.Store.Conduct

namespace Storefront

variable {allowed : Statement → Prop}

/-! ### Orders with answers that are possible -/

namespace OrderStore

section Making

variable {possible : (call : Call) → call.Answer → Prop}

theorem makeLines_confined {orderId : Uuid} {wishes : List (NewLine × Int)}
    {post : Except StoreError (List OrderLine) → Prop}
    (goes : ∀ lines, lines.length = wishes.length → post (.ok lines)) :
    (makeLines orderId wishes).run.Confined possible allowed post := by
  induction wishes generalizing post with
  | nil => exact goes [] rfl
  | cons wish rest ih =>
    refine Operation.confined_bind.mpr (Operation.confined_readClock fun now => ?_)
    refine Operation.confined_bind.mpr (Operation.confined_freshId fun id => ?_)
    refine Operation.confined_bind.mpr (ih fun others same => ?_)
    exact goes (_ :: others) (congrArg (· + 1) same)

theorem addLines_confined {lines : List OrderLine} {post : Except StoreError Unit → Prop}
    (permitted : lines ≠ [] → allowed (.insert .orderItems (lines.map OrderLine.cells) false))
    (goes : (lines ≠ [] → ∃ rows, possible
        (.send (.insert .orderItems (lines.map OrderLine.cells) false)) (.ok rows)) → post (.ok ()))
    (fails : ∀ cause, post (.error cause)) :
    (addLines lines).run.Confined possible allowed post := by
  unfold addLines
  split
  · next empty => exact goes fun other => absurd (List.isEmpty_iff.mp empty) other
  · next other =>
    have filled : lines ≠ [] := fun empty => other (List.isEmpty_iff.mpr empty)
    exact Operation.confined_bind.mpr
      (Operation.confined_send (permitted filled) (fun rows given => goes fun _ => ⟨rows, given⟩) fails)

/-- What is sent before the lines of an order are added does not depend on them; how it goes on from there
decides. -/
theorem add_confined {input : NewOrder} {post : Except StoreError Order → Prop}
    (begin : allowed ⟨.begin, []⟩)
    (look : ∀ id, allowed ⟨.exists .accounts (.equals "id" 1), [.uuid id]⟩)
    (header : ∀ order : Order, allowed (.insert .orders [order.cells] false))
    (rollback : allowed ⟨.rollback, []⟩) (fails : ∀ cause, post (.error cause))
    (finish : ∀ (order : Order) lines, lines.length = (Order.numberLines input).length →
      (do addLines lines
          Operation.commit .transaction
          return { order with items := lines } : Operation Order).run.Confined possible allowed post) :
    (add input).run.Confined possible allowed post := by
  refine Operation.confined_bind.mpr (Operation.confined_takeTurn ?_)
  refine Operation.confined_bind.mpr (Operation.confined_readClock fun now => ?_)
  refine Operation.confined_bind.mpr (Operation.confined_freshId fun id => ?_)
  refine Operation.confined_bind.mpr (Operation.confined_connect ?_ fails)
  refine Operation.confined_bind.mpr (Operation.confined_send begin (fun _ _ => ?_) fails)
  refine Operation.confined_bind.mpr (Operation.confined_send (look _) (fun _ _ => ?_) fails)
  refine Operation.confined_bind.mpr (Operation.confined_known (fun known => ?_) fails)
  cases known with
  | true =>
    refine Operation.confined_bind.mpr (Operation.confined_send (header _) (fun _ _ => ?_) fails)
    exact Operation.confined_bind.mpr (makeLines_confined (finish _))
  | false =>
    exact Operation.confined_bind.mpr
      (Operation.confined_send rollback (fun _ _ => fails (.notFound _ _)) fails)

end Making

end OrderStore

/-! ### Rows -/

namespace StoreCall

/-- The tables that a call may add rows to. -/
def Writes : StoreCall → Table → Prop
  | .createAccount _, table => table = .accounts
  | .createItem _, table => table = .items
  | .createOrder _, table => table = .orders ∨ table = .orderItems
  | _, _ => False

/-- The rows that a call may add: one account, one item or one order at most, and in its own tables
only. -/
def MayAdd (call : StoreCall) (rows : Tables) : Prop := rows.Within call.Writes ∧ rows.Once

/-- A call adds rows to its own tables only. -/
theorem program_sends (call : StoreCall) : call.program.Sends (Statement.Into call.Writes) := by
  refine call.program_asks.mono fun statement asks => ?_
  cases asks with
  | newAccount id now => rintro _ ⟨⟩; rfl
  | newItem id now => rintro _ ⟨⟩; rfl
  | newOrder input order => rintro _ ⟨⟩; exact Or.inl rfl
  | newLines many => rintro _ ⟨⟩; exact Or.inr rfl
  | _ => nofun

/-- A program of a call that can go on only while it has added nothing adds no more than it may. -/
theorem adds_of_keeps [Collation] {call : StoreCall} {tables : Tables} {cut : Cut}
    {post : StoreAnswer → View → Prop} (keeps : call.program.Keeps cut post { tables := tables })
    (standing : ∀ view, cut none view → view.added = .empty) :
    call.program.Keeps (fun _ view => call.MayAdd view.added) (fun _ view => call.MayAdd view.added)
      { tables := tables } :=
  ((keeps.once standing (Or.inl rfl)).within call.program_sends nofun Tables.within_empty).mono
    (fun _ _ kept => ⟨kept.1, kept.2.1⟩) fun _ _ kept => ⟨kept.1, kept.2.1⟩

/-- So does a call that has nothing to add. -/
theorem adds_of_reads [Collation] {call : StoreCall} {tables : Tables}
    (reads : ∀ table, ¬ call.Writes table) :
    call.program.Keeps (fun _ view => call.MayAdd view.added) (fun _ view => call.MayAdd view.added)
      { tables := tables } :=
  ((call.program_keeps tables).within call.program_sends nofun Tables.within_empty).mono
    (fun _ _ kept => ⟨kept.1, Or.inl (Tables.eq_empty_of_within reads kept.1)⟩)
    fun _ _ kept => ⟨kept.1, Or.inl (Tables.eq_empty_of_within reads kept.1)⟩

/-- Whatever others do and wherever it is dropped, a call has added no more than it may. -/
theorem program_adds [Collation] (call : StoreCall) : call.program.Adds call.MayAdd := by
  intro tables
  have nothing : ∀ {call : StoreCall}, call.MayAdd .empty := ⟨Tables.within_empty, Or.inl rfl⟩
  cases call with
  | createAccount input =>
    cases input with
    | none => exact nothing
    | some input =>
      have keeps : (StoreCall.createAccount (some input)).program.Keeps .untouched Program.anyResult
          { tables := tables } :=
        Action.keeps_program_map.mpr
          ((AccountStore.add_keeps input rfl).mono (fun _ _ kept => kept) fun _ _ _ => trivial)
      exact adds_of_keeps keeps fun _ kept => kept rfl
  | createItem input =>
    cases input with
    | none => exact nothing
    | some input =>
      have keeps : (StoreCall.createItem (some input)).program.Keeps .untouched Program.anyResult
          { tables := tables } :=
        Action.keeps_program_map.mpr
          ((ItemStore.add_keeps input rfl).mono (fun _ _ kept => kept) fun _ _ _ => trivial)
      exact adds_of_keeps keeps fun _ kept => kept rfl
  | createOrder input =>
    cases input with
    | none => exact nothing
    | some input => exact adds_of_keeps (StoreCall.program_keeps _ tables) fun _ kept => kept.1
  | _ => exact adds_of_reads fun _ => id

namespace MayAdd

variable {rows : Tables}

/-- A call that reads adds nothing. -/
theorem eq_empty {call : StoreCall} (added : call.MayAdd rows) (reads : ∀ table, ¬ call.Writes table) :
    rows = .empty :=
  Tables.eq_empty_of_within reads added.1

/-- Making an account adds one row at most, to the accounts. -/
theorem account {input : Option NewAccount} (added : (createAccount input).MayAdd rows) :
    rows.accounts.length ≤ 1 ∧ rows.items = [] ∧ rows.orders = [] ∧ rows.orderItems = [] := by
  obtain ⟨inside, once⟩ := added
  have items : rows.items = [] := inside .items (by simp [Writes])
  have orders : rows.orders = [] := inside .orders (by simp [Writes])
  have lines : rows.orderItems = [] := inside .orderItems (by simp [Writes])
  refine ⟨?_, items, orders, lines⟩
  obtain rfl | ⟨tables, addition⟩ := once
  · exact Nat.zero_le _
  · cases addition with
    | account account tidy fits => exact Nat.le_refl 1
    | item item fits => exact Nat.zero_le 1
    | order order numbered fits => exact Nat.zero_le 1

/-- Making an order adds an order with its lines, or nothing. -/
theorem order {input : Option NewOrder} (added : (createOrder input).MayAdd rows) :
    rows = .empty ∨ ∃ order : Order, order.Numbered ∧ rows = order.kept := by
  obtain ⟨inside, once⟩ := added
  have accounts : rows.accounts = [] := inside .accounts (by simp [Writes])
  have items : rows.items = [] := inside .items (by simp [Writes])
  obtain rfl | ⟨tables, addition⟩ := once
  · exact Or.inl rfl
  · cases addition with
    | account account tidy fits => cases accounts
    | item item fits => cases items
    | order order numbered fits => exact Or.inr ⟨order, numbered, rfl⟩

end MayAdd

end StoreCall

end Storefront
