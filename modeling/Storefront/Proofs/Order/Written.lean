/-
**Wishes that are written down.**

Every wish for an order, with any texts and any number of lines, can be written as the body of a request:
`OrderForm.json` is how.  What is written decodes as the wish.

Main statement: `OrderForm.read_json` — a wish that is written is read as it is.
-/

import Storefront.Order.Basic
import Storefront.Proofs.Json.Written

namespace Storefront

open Storefront.Json Storefront.Text

variable {ι : Type} {identifier : Decoder ι} {spell : ι → String}

/-- How a line is written. -/
def LineForm.json (spell : ι → String) (line : LineForm ι) : Value :=
  .object [("item_id", .text (spell line.itemId)), ("quantity", .integer line.quantity)]

/-- How a wish is written. -/
def OrderForm.json (spell : ι → String) (order : OrderForm ι) : Value :=
  .object [("account_id", .text (spell order.accountId)),
    ("items", .array (order.items.map (Value.optional (LineForm.json spell))))]

/-- The quantities of the lines have at most thirty-two bits. -/
def OrderForm.Countable (order : OrderForm ι) : Prop :=
  ∀ line, some line ∈ order.items → (IntegerRange.signed 32).contains line.quantity = true

namespace LineForm

theorem exact_json {line : LineForm ι} (fits : (IntegerRange.signed 32).contains line.quantity = true) :
    (line.json spell).Exact := by
  have bounds := IntegerRange.contains_iff.mp fits
  have narrow : (-(twoTo 63 : Int) ≤ (IntegerRange.signed 32).lowest) ∧
      (IntegerRange.signed 32).highest < twoTo 64 := by decide
  exact ⟨trivial, ⟨by omega, by omega⟩, trivial⟩

/-- A line that is written decodes as the line. -/
theorem decode_json (name : String) (reads : ∀ id, identifier (.text (some (spell id))) = .ok id)
    {line : LineForm ι} (fits : (IntegerRange.signed 32).contains line.quantity = true) :
    (shape name identifier).decode (line.json spell).outline = .ok line := by
  have written : (line.json spell).outline = .object (.next (.text (some "item_id"))
      (.text (some (spell line.itemId))) (.next (.text (some "quantity"))
        (.number (.integer line.quantity)) .closed)) := rfl
  have counted : Decoder.int32 (.number (.integer line.quantity)) = .ok line.quantity := if_pos fits
  have filled : (shape name identifier).fill (line.json spell).outline =
      .ok ⟨some line.itemId, some line.quantity⟩ := by
    rw [written]
    simp [Shape.fill, shape, Shape.fillMembers, Shape.field, reads, counted, Except.map]
  rw [Shape.decode, filled]
  rfl

/-- So does a line that may be empty. -/
theorem decode_optional_json (name : String) (reads : ∀ id, identifier (.text (some (spell id))) = .ok id)
    {line : Option (LineForm ι)}
    (fits : ∀ given ∈ line, (IntegerRange.signed 32).contains given.quantity = true) :
    Decoder.optional (shape name identifier).decode (Value.optional (json spell) line).outline =
      .ok line :=
  Decoder.optional_outline (fun _ _ => nofun) fun given same => decode_json name reads (fits given same)

end LineForm

namespace OrderForm

variable {order : OrderForm ι}

theorem exact_json (countable : order.Countable) : (order.json spell).Exact := by
  refine ⟨trivial, Value.exactElements_of_forall fun value member => ?_, trivial⟩
  obtain ⟨line, inside, rfl⟩ := List.mem_map.mp member
  cases line with
  | none => trivial
  | some line => exact LineForm.exact_json (countable line inside)

/-- A wish that is written decodes as the wish. -/
theorem decode_json (name lineName : String)
    (reads : ∀ id, identifier (.text (some (spell id))) = .ok id) (countable : order.Countable) :
    (shape name lineName identifier).decode (order.json spell).outline = .ok order := by
  have written : (order.json spell).outline = .object (.next (.text (some "account_id"))
      (.text (some (spell order.accountId))) (.next (.text (some "items"))
        (.array (Value.elementOutlines (order.items.map (Value.optional (LineForm.json spell)))))
          .closed)) :=
    rfl
  have lines : Decoder.list (.optional (LineForm.shape lineName identifier).decode)
      (.array (Value.elementOutlines (order.items.map (Value.optional (LineForm.json spell))))) =
        .ok order.items := by
    refine Decoder.list_ok_iff.mpr ⟨_, Value.toList?_elementOutlines _, ?_⟩
    rw [List.map_map, List.map_map]
    refine List.map_congr_left fun line member => ?_
    refine LineForm.decode_optional_json lineName reads fun given same => ?_
    exact countable given (same ▸ member)
  have filled : (shape name lineName identifier).fill (order.json spell).outline =
      .ok ⟨some order.accountId, some order.items⟩ := by
    rw [written]
    simp [Shape.fill, shape, Shape.fillMembers, Shape.field, reads, lines, Except.map]
  rw [Shape.decode, filled]
  rfl

/-- **A wish that is written is read as it is.** -/
theorem read_json (name lineName : String)
    (reads : ∀ id, identifier (.text (some (spell id))) = .ok id) (countable : order.Countable) :
    Json.read (shape name lineName identifier).decode ((order.json spell).chars.map some) = .ok order := by
  rw [read_chars (exact_json countable), decode_json name lineName reads countable]

end OrderForm

end Storefront
