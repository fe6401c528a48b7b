/-
**What a wish for an order means.**

A wish gives identifiers as texts and quantities as numbers; `OrderCommand.Means` says which order is
wished for.  A wish without a fault means exactly one order, with a line for each line of the wish
and nothing where the wish has nothing; a wish with a fault means none.

Main statements:

* `OrderCommand.toNew_eq_ok_iff`: what is made of a wish is the order that it means;
* `OrderCommand.exists_means_iff`: a wish means an order exactly if it has no fault.
-/

import Mathlib.Data.List.Forall2
import Storefront.Order.Basic
import Storefront.Proofs.Store.Reading

namespace Storefront

open Storefront.Text

/-! ### Identifiers and quantities -/

/-- White space around it aside, the text spells the identifier. -/
def Uuid.Spells (raw : String) (id : Uuid) : Prop := Uuid.read (trim raw.toList) = .ok id

/-- White space around it aside, the text spells no identifier. -/
def Uuid.Malformed (raw : String) : Prop := ∀ id, Uuid.read (trim raw.toList) ≠ .ok id

theorem Uuid.exists_spells_iff {raw : String} : (∃ id, Spells raw id) ↔ ¬ Malformed raw := by
  unfold Malformed Spells
  push Not
  rfl

namespace Rejection

theorem readId_eq_ok_iff {field raw : String} {id : Uuid} :
    readId field raw = .ok id ↔ Uuid.Spells raw id := mapError_eq_ok_iff

theorem readId_malformed {field raw : String} {id : Uuid} (malformed : Uuid.Malformed raw) :
    readId field raw ≠ .ok id :=
  fun read => malformed id (readId_eq_ok_iff.mp read)

theorem requireQuantity_eq_ok_iff {quantity : Int} {done : Unit} :
    requireQuantity quantity = .ok done ↔ 1 ≤ quantity := by
  unfold requireQuantity
  split
  · next few => exact ⟨nofun, fun enough => absurd few (by omega)⟩
  · next enough => exact ⟨fun _ => by omega, fun _ => rfl⟩

theorem readId_eq_error_iff {field raw : String} {rejection : Rejection} :
    readId field raw = .error rejection ↔
      ∃ cause, Uuid.read (trim raw.toList) = .error cause ∧ .identifier field raw cause = rejection :=
  mapError_eq_error_iff

theorem requireQuantity_eq_error_iff {quantity : Int} {rejection : Rejection} :
    requireQuantity quantity = .error rejection ↔ quantity < 1 ∧ .quantity quantity = rejection := by
  unfold requireQuantity
  split
  · next few => exact ⟨fun same => ⟨few, Except.error.inj same⟩, fun ⟨_, same⟩ => same ▸ rfl⟩
  · next enough => exact ⟨nofun, fun ⟨few, _⟩ => absurd few enough⟩

end Rejection

/-! ### Lines -/

/-- The line that is wished for: one or more of the item that the text spells. -/
structure LineCommand.Means (command : LineCommand) (line : NewLine) : Prop where
  enough : 1 ≤ command.quantity
  quantity : line.quantity = command.quantity
  item : Uuid.Spells command.itemId line.itemId

namespace LineCommand

theorem toNew_eq_ok_iff {command : LineCommand} {line : NewLine} :
    command.toNew = .ok line ↔ command.Means line := by
  unfold toNew
  simp only [bind_eq_ok_iff, Rejection.requireQuantity_eq_ok_iff, Rejection.readId_eq_ok_iff]
  constructor
  · rintro ⟨_, enough, id, item, made⟩
    cases made
    exact ⟨enough, rfl, item⟩
  · intro means
    exact ⟨(), means.enough, line.itemId, means.item, means.quantity ▸ rfl⟩

/-- The lines that are wished for, and nothing where the wish has nothing. -/
theorem allToNew_eq_ok_iff {commands : List (Option LineCommand)} {lines : List (Option NewLine)} :
    allToNew commands = .ok lines ↔ List.Forall₂ (Option.Rel Means) commands lines := by
  fun_induction allToNew commands generalizing lines with
  | case1 =>
    rw [List.forall₂_nil_left_iff]
    exact ⟨fun read => by cases read; rfl, fun unread => by rw [unread]⟩
  | case2 rest ih =>
    simp only [bind_eq_ok_iff, ih]
    constructor
    · rintro ⟨tail, others, made⟩
      cases made
      exact .cons .none others
    · rintro (_ | ⟨_ | _, others⟩)
      exact ⟨_, others, rfl⟩
  | case3 command rest ih =>
    simp only [bind_eq_ok_iff, ih, toNew_eq_ok_iff]
    constructor
    · rintro ⟨line, first, tail, others, made⟩
      cases made
      exact .cons (.some first) others
    · rintro (_ | ⟨first | _, others⟩)
      exact ⟨_, first, _, others, rfl⟩

end LineCommand

/-! ### Orders -/

/-- The order that is wished for. -/
structure OrderCommand.Means (command : OrderCommand) (input : NewOrder) : Prop where
  account : Uuid.Spells command.accountId input.accountId
  lines : List.Forall₂ (Option.Rel LineCommand.Means) command.items input.items

/-- There is a line with a quantity below one or a malformed item, or the account is malformed. -/
def OrderCommand.Faulty (command : OrderCommand) : Prop :=
  (∃ line, some line ∈ command.items ∧ (line.quantity < 1 ∨ Uuid.Malformed line.itemId)) ∨
    Uuid.Malformed command.accountId

namespace OrderCommand

variable {command : OrderCommand} {input : NewOrder}

/-- What is made of a wish is the order that it means. -/
theorem toNew_eq_ok_iff : command.toNew = .ok input ↔ command.Means input := by
  unfold toNew
  simp only [bind_eq_ok_iff, LineCommand.allToNew_eq_ok_iff, Rejection.readId_eq_ok_iff]
  constructor
  · rintro ⟨items, lines, id, account, made⟩
    cases made
    exact ⟨account, lines⟩
  · intro means
    exact ⟨input.items, means.lines, input.accountId, means.account, rfl⟩

/-- A wish means one order only. -/
theorem Means.unique {other : NewOrder} (means : command.Means input) (others : command.Means other) :
    input = other :=
  Except.ok.inj ((toNew_eq_ok_iff.mpr means).symm.trans (toNew_eq_ok_iff.mpr others))

/-- Every line that is wished for is a line of the order. -/
theorem Means.exists_line {wish : LineCommand} (means : command.Means input)
    (member : some wish ∈ command.items) : ∃ line, some line ∈ input.items ∧ wish.Means line := by
  obtain ⟨_, inside, related⟩ := exists_of_forall₂ means.lines member
  cases related with
  | some means => exact ⟨_, inside, means⟩

/-- Every line of the order is wished for. -/
theorem Means.exists_wish {line : NewLine} (means : command.Means input)
    (member : some line ∈ input.items) :
    ∃ wish : LineCommand, some wish ∈ command.items ∧ wish.Means line := by
  have reversed : List.Forall₂ (flip (Option.Rel LineCommand.Means)) input.items command.items :=
    means.lines.flip
  obtain ⟨_, inside, related⟩ := exists_of_forall₂ reversed member
  cases related with
  | some means => exact ⟨_, inside, means⟩

/-- A wish that means an order has no fault. -/
theorem Means.not_faulty (means : command.Means input) : ¬ command.Faulty := by
  rintro (⟨wish, member, few | malformed⟩ | malformed)
  · obtain ⟨line, _, means⟩ := means.exists_line member
    exact absurd means.enough (by omega)
  · obtain ⟨line, _, means⟩ := means.exists_line member
    exact malformed _ means.item
  · exact malformed _ means.account

/-- A wish means an order exactly if it has no fault. -/
theorem exists_means_iff : (∃ input, command.Means input) ↔ ¬ command.Faulty := by
  refine ⟨fun ⟨_, means⟩ => means.not_faulty, fun sound => ?_⟩
  have each : ∀ wish ∈ command.items, ∃ line, Option.Rel LineCommand.Means wish line := by
    rintro (_ | wish) member
    · exact ⟨none, .none⟩
    · have enough : ¬ wish.quantity < 1 := fun few => sound (.inl ⟨wish, member, .inl few⟩)
      obtain ⟨item, spelled⟩ := Uuid.exists_spells_iff.mpr fun malformed =>
        sound (.inl ⟨wish, member, .inr malformed⟩)
      exact ⟨some ⟨item, wish.quantity⟩, .some ⟨by omega, rfl, spelled⟩⟩
  obtain ⟨account, spelled⟩ := Uuid.exists_spells_iff.mpr fun malformed => sound (.inr malformed)
  obtain ⟨lines, related⟩ := exists_forall₂ each
  exact ⟨⟨account, lines⟩, spelled, related⟩

/-- A wish for an order with a fault means no order. -/
theorem toNew_ne_ok (faulty : command.Faulty) (order : NewOrder) : command.toNew ≠ .ok order :=
  fun read => (toNew_eq_ok_iff.mp read).not_faulty faulty

end OrderCommand

end Storefront
