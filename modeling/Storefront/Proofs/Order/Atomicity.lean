/-
**An order is made as a whole or not at all.**

An order is made by six statements, each of which can fail or be cut off, and the line batch is not
sent at all if there are no lines.  However the call ends, the tables hold the order with all of its
lines if it is returned, and are as they were if it is not.

The only way to end that this leaves out is a call that is dropped after the server has carried out
its `COMMIT` and before the answer is heard.

Main statement: `create_whole_or_nothing`.
-/

import Storefront.Proofs.Order.Creation
import Storefront.Proofs.Program.Alone
import Storefront.Proofs.Program.Solo

namespace Storefront

/-- Has a limit dropped the call? -/
def Ending.Dropped {α : Type} : Ending (Except StoreError α) → Prop
  | .abandoned | .finished (.error (.timeout _)) => True
  | _ => False

namespace OrderStore

variable {environment : Environment} {limit outer : Option Duration} {input : NewOrder}
  {machine after : Machine} {ending : Ending (Except StoreError Order)}

/-- How making an order alone can end: with the order and all of its rows, without a trace, or
dropped after its `COMMIT`. -/
theorem create_cases [Collation]
    (performed : machine.perform environment outer ((inDatabase limit).create (some input)) =
      (after, ending)) :
    (∃ order, ending = .finished (.ok order) ∧ order.MadeFrom input ∧
        after.tables = machine.tables ++ order.kept) ∨
      ((∀ order, ending ≠ .finished (.ok order)) ∧ after.tables = machine.tables) ∨
      ending.Dropped ∧ machine.CarriedOut environment after ⟨.commit, []⟩ := by
  have ended : machine.Ended environment addCut (addPost input)
      ((limit.map fun duration => (duration, .error (.timeout duration))).map Prod.snd) machine.tables
      (machine.perform environment outer ((inDatabase limit).create (some input))).1
      (machine.perform environment outer ((inDatabase limit).create (some input))).2 :=
    Machine.perform_ended (add_keeps input machine.tables)
  rw [performed] at ended
  have nothing : ∀ {view : View}, view.added = .empty → view.tables = machine.tables ++ view.added →
      view.tables = machine.tables := by
    intro view nothing grown
    rw [grown, nothing, Tables.append_empty]
  -- the answer that stands in for the result of a dropped call is never an order
  have standIn : ∀ value, (limit.map fun duration => (duration,
      (.error (.timeout duration) : Except StoreError Order))).map Prod.snd = some value →
        ∃ duration, value = .error (.timeout duration) := by
    intro value found
    cases limit with
    | none => cases found
    | some duration => exact ⟨duration, (Option.some.inj found).symm⟩
  cases ended with
  | @finished value view tables grown kept =>
    cases value with
    | ok order =>
      obtain ⟨_, made, whole, _⟩ := kept
      exact Or.inl ⟨order, rfl, made, by rw [tables, grown, whole]⟩
    | error cause => exact Or.inr (Or.inl ⟨fun _ => nofun, tables.trans (nothing kept.2 grown)⟩)
  | dropped view tables grown kept unfinished =>
    refine Or.inr (Or.inl ⟨fun order returned => ?_, tables.trans (nothing kept.1 grown)⟩)
    obtain ⟨duration, impossible⟩ := standIn _ (unfinished _ returned)
    cases impossible
  | unheard view tables grown statement kept carried unfinished =>
    have dropped : ending.Dropped := by
      obtain rfl | ⟨value, rfl, found⟩ := unfinished
      · trivial
      · obtain ⟨duration, rfl⟩ := standIn value found
        trivial
    by_cases commit : statement = ⟨.commit, []⟩
    · exact Or.inr (Or.inr ⟨dropped, commit ▸ carried⟩)
    · refine Or.inr (Or.inl ⟨fun order returned => ?_, tables.trans (nothing (kept.2 commit) grown)⟩)
      rw [returned] at dropped
      exact dropped

/-- An order that is returned has been added. -/
theorem tables_of_created [Collation] {order : Order}
    (performed : machine.perform environment outer ((inDatabase limit).create (some input)) =
      (after, .finished (.ok order))) :
    order.MadeFrom input ∧ after.tables = machine.tables ++ order.kept := by
  obtain ⟨_, same, made, whole⟩ | ⟨failed, _⟩ | ⟨dropped, _⟩ := create_cases performed
  · cases same
    exact ⟨made, whole⟩
  · exact absurd rfl (failed order)
  · cases dropped

/-- A failure that is no limit adds nothing. -/
theorem tables_of_failed [Collation] {cause : StoreError}
    (performed : machine.perform environment outer ((inDatabase limit).create (some input)) =
      (after, .finished (.error cause)))
    (heard : ∀ duration, cause ≠ .timeout duration) : after.tables = machine.tables := by
  obtain ⟨_, impossible, _⟩ | ⟨_, same⟩ | ⟨dropped, _⟩ := create_cases performed
  · cases impossible
  · exact same
  · cases cause with
    | timeout duration => exact absurd rfl (heard duration)
    | _ => cases dropped

/-- **An order is made as a whole or not at all.** Unless the call is dropped after its `COMMIT` has
been carried out, an order is returned exactly when the tables hold it and all of its lines behind
the rows that were there; otherwise they are as they were.  Accounts and items are never touched. -/
theorem create_whole_or_nothing [Collation]
    (performed : machine.perform environment outer ((inDatabase limit).create (some input)) =
      (after, ending))
    (heard : machine.CarriedOut environment after ⟨.commit, []⟩ → ¬ ending.Dropped) :
    ((∃ order, ending = .finished (.ok order)) ↔
        ∃ order : Order, after.tables = machine.tables ++ order.kept) ∧
      (∀ order, ending = .finished (.ok order) → order.MadeFrom input ∧
        after.tables.orders = machine.tables.orders ++ [order.header] ∧
        after.tables.orderItems = machine.tables.orderItems ++ order.items.map OrderLine.kept) ∧
      ((∀ order, ending ≠ .finished (.ok order)) →
        after.tables.orders = machine.tables.orders ∧
        after.tables.orderItems = machine.tables.orderItems) ∧
      after.tables.accounts = machine.tables.accounts ∧ after.tables.items = machine.tables.items := by
  obtain ⟨order, rfl, made, whole⟩ | ⟨failed, same⟩ | ⟨dropped, carried⟩ := create_cases performed
  · refine ⟨⟨fun _ => ⟨order, whole⟩, fun _ => ⟨order, rfl⟩⟩, ?_, ?_, ?_, ?_⟩
    · rintro _ ⟨⟩
      rw [whole]
      exact ⟨made, rfl, rfl⟩
    · exact fun failed => absurd rfl (failed order)
    · rw [whole]
      exact List.append_nil _
    · rw [whole]
      exact List.append_nil _
  · refine ⟨⟨?_, ?_⟩, ?_, ?_, ?_, ?_⟩
    · rintro ⟨order, returned⟩
      exact absurd returned (failed order)
    · rintro ⟨order, whole⟩
      have grown := congrArg (fun tables => tables.orders.length) (same.symm.trans whole)
      simp [Tables.append_def, Order.kept] at grown
    · exact fun order returned => absurd returned (failed order)
    · exact fun _ => ⟨by rw [same], by rw [same]⟩
    · rw [same]
    · rw [same]
  · exact absurd dropped (heard carried)

theorem create_whole_or_nothing_sample :
    ∃ order : Order,
      (Machine.perform .sample none ((inDatabase none).create (some .sample)) { tables := .sample }).2 =
          .finished (.ok order) ∧
        order.MadeFrom .sample ∧ order.items.length = 2 ∧
        (Machine.perform .sample none ((inDatabase none).create (some .sample))
          { tables := .sample }).1.tables = Tables.sample ++ order.kept := by
  obtain ⟨_, made, _⟩ := create_whole_or_nothing
    (rfl : Machine.perform .sample none ((inDatabase none).create (some .sample))
      { tables := .sample } =
      (_, .finished (.ok _)))
    (fun _ dropped => dropped)
  exact ⟨_, rfl, (made _ rfl).1, rfl, rfl⟩

end OrderStore

end Storefront
