/-
**Making an order again.**

An order that has been made from a wish, and that nothing forbids in some tables, can be made from
the same wish on these tables by a call that runs alone: there is a healthy environment in which the
call returns this very order and adds exactly its rows.

Main statements:

* `Order.draft_remaking`: the order is drafted from the identifiers and readings of the clock that it
  has;
* `create_again`: the call that makes the order.
-/

import Storefront.Proofs.Order.Atomicity
import Storefront.Proofs.Order.Making
import Storefront.Proofs.Program.Endings

namespace Storefront

/-! ### Environments with a script -/

/-- A smooth environment that gives out these identifiers and readings of the clock. -/
def Environment.scripted (ids : List Uuid) (readings : List Int) : Environment :=
  .smooth (fun count => ids.getD count (.numbered 0)) fun count => readings.getD count 0

/-- The identifiers and readings of the clock for an order and its lines. -/
def Environment.remaking (id : Uuid) (nanos : Int) (lines : List OrderLine) (readings : List Int) :
    Environment :=
  .scripted (id :: lines.map OrderLine.id) (nanos :: readings)

theorem getD_of_drop_eq_cons {α : Type} {all rest : List α} {count : Nat} {first other : α}
    (here : all.drop count = first :: rest) : all.getD count other = first := by
  rw [List.getD_eq_getElem?_getD, ← List.head?_drop, here]
  rfl

theorem drop_of_drop_eq_cons {α : Type} {all rest : List α} {count : Nat} {first : α}
    (here : all.drop count = first :: rest) : all.drop (count + 1) = rest := by
  rw [← List.tail_drop, here]
  rfl

/-- Lines were made at some readings of the clock. -/
theorem OrderLine.exists_readings {orderId : Uuid} {wishes : List (NewLine × Int)}
    {lines : List OrderLine} (made : List.Forall₂ (MadeFrom orderId) wishes lines) :
    ∃ readings : List Int, readings.map Timestamp.ofClock = lines.map createdAt := by
  induction made with
  | nil => exact ⟨[], rfl⟩
  | cons first _ ih =>
    obtain ⟨id, nanos, rfl⟩ := first
    obtain ⟨readings, same⟩ := ih
    exact ⟨nanos :: readings, by rw [List.map_cons, List.map_cons, same]; rfl⟩

/-- The lines are drafted from the identifiers and readings of the clock that they have. -/
theorem OrderLine.drafts_scripted {orderId : Uuid} {wishes : List (NewLine × Int)}
    {lines : List OrderLine} (made : List.Forall₂ (MadeFrom orderId) wishes lines) {ids : List Uuid}
    {readings : List Int} {given read : Nat} (identified : ids.drop given = lines.map OrderLine.id)
    (clocked : (readings.drop read).map Timestamp.ofClock = lines.map createdAt) :
    drafts (Environment.scripted ids readings).id (Environment.scripted ids readings).clock orderId
      wishes given read = lines := by
  induction made generalizing given read with
  | nil => rfl
  | cons first others ih =>
    obtain ⟨id, nanos, rfl⟩ := first
    obtain ⟨reading, rest, now, same, clocked⟩ := List.map_eq_cons_iff.mp clocked
    have next : (Environment.scripted ids readings).id given = id := getD_of_drop_eq_cons identified
    have time : (Environment.scripted ids readings).clock read = reading := getD_of_drop_eq_cons now
    rw [drafts, next, time, same,
      ih (drop_of_drop_eq_cons identified) (drop_of_drop_eq_cons now ▸ clocked)]
    rfl

/-- An order is drafted from the identifiers and readings of the clock that it has. -/
theorem Order.draft_remaking {wish : NewOrder} {order : Order} {nanos : Int} {readings : List Int}
    (header : { order with items := [] } = register wish.accountId order.id (.ofClock nanos))
    (made : List.Forall₂ (OrderLine.MadeFrom order.id) (numberLines wish) order.items)
    (clocked : readings.map Timestamp.ofClock = order.items.map OrderLine.createdAt) :
    draft (Environment.remaking order.id nanos order.items readings).id
      (Environment.remaking order.id nanos order.items readings).clock wish 0 0 = order := by
  have lines : OrderLine.drafts (Environment.remaking order.id nanos order.items readings).id
      (Environment.remaking order.id nanos order.items readings).clock order.id (numberLines wish)
      1 1 = order.items := OrderLine.drafts_scripted made rfl clocked
  have whole : draft (Environment.remaking order.id nanos order.items readings).id
      (Environment.remaking order.id nanos order.items readings).clock wish 0 0 =
        { register wish.accountId order.id (.ofClock nanos) with
          items := OrderLine.drafts (Environment.remaking order.id nanos order.items readings).id
            (Environment.remaking order.id nanos order.items readings).clock order.id
            (numberLines wish) 1 1 } := rfl
  rw [whole, lines, ← header]

namespace OrderStore

/-- An order that nothing forbids is made again by a call that runs alone. -/
theorem create_again [Collation] {α : Type} {wish : NewOrder} {order : Order} {tables : Tables}
    (made : order.MadeFrom wish) (fits : order.FitsIn tables) (answer : Except StoreError Order → α) :
    ∃ (environment : Environment) (after : Machine), environment.Healthy ∧
      Machine.perform environment none (answer <$> (inDatabase none).create (some wish))
          { tables := tables } = (after, .finished (answer (.ok order))) ∧
        after.tables = tables ++ order.kept := by
  obtain ⟨nanos, header⟩ := made.header
  obtain ⟨readings, clocked⟩ := OrderLine.exists_readings made.lines
  have healthy : (Environment.remaking order.id nanos order.items readings).Healthy :=
    Environment.healthy_smooth _ _
  have unlimited : ((inDatabase none).create (some wish)).Unlimited := trivial
  have computed := (Machine.perform_solo healthy unlimited { tables := tables } rfl).1
  rw [show ((inDatabase none).create (some wish)).program = (add wish).run from rfl, add_solo,
    Order.draft_remaking header made.lines clocked, addOn_eq_ok_iff.mpr ⟨rfl, fits⟩] at computed
  obtain ⟨after, performed⟩ : ∃ after, Machine.perform _ none ((inDatabase none).create (some wish)) _ =
      (after, .finished (.ok order)) := ⟨_, Prod.ext rfl computed⟩
  refine ⟨_, after, healthy, ?_, (tables_of_created performed).2⟩
  rw [Machine.perform_map, performed]
  rfl

end OrderStore

end Storefront
