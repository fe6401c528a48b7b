/-
**Two readings of one text.**

A wish for an order is read from JSON in two ways: with its identifiers (`NewOrder`), and with the texts
that spell them (`OrderCommand`), which are read later.  The two decoders are made from one form, so they
agree for any two ways of reading an identifier that do (`OrderForm.shape_agrees`).

What differs is left to the later reading: it looks at the quantities, and it takes white space around a
text away, where there is none around an identifier that is read at once (`Uuid.reads_iff_spells`).

Main statement: `orders_decode_alike` — a text is read as an order, and none of its quantities is below
one, exactly if it is read as a wish that means this order and has no white space around its identifiers.
-/

import Storefront.Proofs.Json.Agreement
import Storefront.Proofs.Json.Written
import Storefront.Proofs.Order.Wishes
import Storefront.Proofs.Uuid.Spelling

namespace Storefront

open Storefront.Json Storefront.Text

variable {ι κ : Type} {related : ι → κ → Prop} {first : Decoder ι} {second : Decoder κ}

/-! ### Lines -/

namespace LineForm

/-- The identifiers are related and the quantities are the same. -/
structure Rel (related : ι → κ → Prop) (line : LineForm ι) (other : LineForm κ) : Prop where
  item : related line.itemId other.itemId
  quantity : line.quantity = other.quantity

/-- So is what has been given of the lines. -/
structure Draft.Rel (related : ι → κ → Prop) (draft : Draft ι) (other : Draft κ) : Prop where
  item : Option.Rel related draft.itemId other.itemId
  quantity : draft.quantity = other.quantity

theorem finish_eq_ok_iff {name : String} {draft : Draft ι} {line : LineForm ι} :
    (shape name first).finish draft = .ok line ↔ draft = ⟨some line.itemId, some line.quantity⟩ := by
  rcases draft with ⟨_ | item, _ | quantity⟩
  · exact ⟨nofun, nofun⟩
  · exact ⟨nofun, nofun⟩
  · exact ⟨nofun, nofun⟩
  · constructor
    · intro made
      cases made
      rfl
    · intro same
      cases same
      rfl

theorem shape_separate (name : String) : (shape name second).Separate where
  empty := by simp [shape, Shape.field]
  apart := by
    refine List.pairwise_pair.mpr fun outline draft filled fill => ?_
    obtain ⟨value, -, rfl⟩ := Shape.fill_field_iff.mp fill
    rfl

/-- Lines agree if their identifiers do. -/
theorem shape_agrees (name name' : String) (agree : Decoder.Agrees related first second) :
    Shape.Agrees (Draft.Rel related) (Rel related) (shape name first) (shape name' second) where
  fields := by
    refine .cons (.of_decoders agree ?itemGiven ?itemFilled)
      (.cons (.of_decoders (.refl _) ?quantityGiven ?quantityFilled) .nil)
    case itemGiven =>
      rintro ⟨_, _⟩ ⟨_, _⟩ ⟨item, -⟩
      cases item <;> rfl
    case itemFilled =>
      rintro ⟨_, quantity⟩ item filled rfl
      constructor
      · rcases filled with ⟨_, _⟩
        rintro ⟨⟨item⟩, same⟩
        exact ⟨_, ⟨none, _⟩, item, ⟨.none, same⟩, rfl⟩
      · rintro ⟨_, _, item, ⟨-, same⟩, rfl⟩
        exact ⟨.some item, same⟩
    case quantityGiven =>
      rintro ⟨_, _⟩ ⟨_, _⟩ ⟨-, rfl⟩
      rfl
    case quantityFilled =>
      rintro ⟨item, _⟩ quantity filled rfl
      constructor
      · rcases filled with ⟨_, _⟩
        rintro ⟨item, rfl⟩
        exact ⟨_, ⟨_, none⟩, rfl, ⟨item, rfl⟩, rfl⟩
      · rintro ⟨_, _, rfl, ⟨item, -⟩, rfl⟩
        exact ⟨item, rfl⟩
  draft := by
    rintro ⟨_, _⟩
    constructor
    · rintro ⟨⟨⟩, rfl⟩
      rfl
    · rintro ⟨⟩
      exact ⟨.none, rfl⟩
  finish := by
    intro other line
    simp only [finish_eq_ok_iff]
    constructor
    · rcases other with ⟨_, _⟩
      rintro ⟨draft, together, rfl⟩
      obtain ⟨⟨item⟩, rfl⟩ := together
      exact ⟨⟨_, line.quantity⟩, rfl, item, rfl⟩
    · rintro ⟨line', rfl, item, same⟩
      exact ⟨_, ⟨.some item, congrArg some same⟩, rfl⟩

end LineForm

/-! ### Orders -/

namespace OrderForm

/-- The identifiers are related, and the lines are, empty ones to empty ones. -/
structure Rel (related : ι → κ → Prop) (order : OrderForm ι) (other : OrderForm κ) : Prop where
  account : related order.accountId other.accountId
  items : List.Forall₂ (Option.Rel (LineForm.Rel related)) order.items other.items

/-- So is what has been given of the orders. -/
structure Draft.Rel (related : ι → κ → Prop) (draft : Draft ι) (other : Draft κ) : Prop where
  account : Option.Rel related draft.accountId other.accountId
  items : Option.Rel (List.Forall₂ (Option.Rel (LineForm.Rel related))) draft.items other.items

theorem finish_eq_ok_iff {name lineName : String} {draft : Draft ι} {order : OrderForm ι} :
    (shape name lineName first).finish draft = .ok order ↔
      draft.accountId = some order.accountId ∧ draft.items.getD [] = order.items := by
  rcases draft with ⟨_ | account, items⟩
  · exact ⟨nofun, nofun⟩
  · constructor
    · intro made
      cases made
      exact ⟨rfl, rfl⟩
    · rintro ⟨same, lines⟩
      cases same
      exact congrArg Except.ok (congrArg (OrderForm.mk _) lines)

theorem shape_separate (name lineName : String) : (shape name lineName second).Separate where
  empty := by simp [shape, Shape.field]
  apart := by
    refine List.pairwise_pair.mpr fun outline draft filled fill => ?_
    obtain ⟨value, -, rfl⟩ := Shape.fill_field_iff.mp fill
    rfl

/-- Orders agree if their identifiers do. -/
theorem shape_agrees (name lineName name' lineName' : String)
    (agree : Decoder.Agrees related first second) :
    Shape.Agrees (Draft.Rel related) (Rel related) (shape name lineName first)
      (shape name' lineName' second) where
  fields := by
    have lines := (LineForm.shape_agrees lineName lineName' agree).decode (LineForm.shape_separate _)
    refine .cons (.of_decoders agree ?accountGiven ?accountFilled)
      (.cons (.of_decoders lines.optional.list ?itemsGiven ?itemsFilled) .nil)
    case accountGiven =>
      rintro ⟨_, _⟩ ⟨_, _⟩ ⟨account, -⟩
      cases account <;> rfl
    case accountFilled =>
      rintro ⟨_, items⟩ account filled rfl
      constructor
      · rcases filled with ⟨_, _⟩
        rintro ⟨⟨account⟩, items⟩
        exact ⟨_, ⟨none, _⟩, account, ⟨.none, items⟩, rfl⟩
      · rintro ⟨_, _, account, ⟨-, items⟩, rfl⟩
        exact ⟨.some account, items⟩
    case itemsGiven =>
      rintro ⟨_, _⟩ ⟨_, _⟩ ⟨-, items⟩
      cases items <;> rfl
    case itemsFilled =>
      rintro ⟨account, _⟩ items filled rfl
      constructor
      · rcases filled with ⟨_, _⟩
        rintro ⟨account, ⟨items⟩⟩
        exact ⟨_, ⟨_, none⟩, items, ⟨account, .none⟩, rfl⟩
      · rintro ⟨_, _, items, ⟨account, -⟩, rfl⟩
        exact ⟨account, .some items⟩
  draft := by
    rintro ⟨_, _⟩
    constructor
    · rintro ⟨⟨⟩, ⟨⟩⟩
      rfl
    · rintro ⟨⟩
      exact ⟨.none, .none⟩
  finish := by
    intro other order
    simp only [finish_eq_ok_iff]
    constructor
    · rcases other with ⟨_, items'⟩
      rintro ⟨⟨_, _⟩, ⟨⟨account⟩, together⟩, ⟨⟩, lines⟩
      refine ⟨⟨_, items'.getD []⟩, ⟨rfl, rfl⟩, account, lines ▸ ?_⟩
      cases together with
      | none => exact .nil
      | some items => exact items
    · rcases other with ⟨_, _ | items'⟩
      · rintro ⟨order', ⟨rfl, lines⟩, account, items⟩
        have empty : order.items = [] := List.forall₂_nil_right_iff.mp (lines ▸ items)
        exact ⟨⟨some order.accountId, none⟩, ⟨.some account, .none⟩, rfl, empty.symm⟩
      · rintro ⟨order', ⟨rfl, rfl⟩, account, items⟩
        exact ⟨⟨some order.accountId, some order.items⟩, ⟨.some account, .some items⟩, rfl, rfl⟩

end OrderForm

/-! ### Identifiers and their texts -/

/-- The text spells the identifier and has no white space around it. -/
def Uuid.Reads (id : Uuid) (raw : String) : Prop := Uuid.read raw.toList = .ok id

/-- An identifier is read at once exactly if it can be read later and there is no white space to be
taken away. -/
theorem Uuid.reads_iff_spells {id : Uuid} {raw : String} :
    id.Reads raw ↔ Spells raw id ∧ trimmed raw = raw := by
  unfold Reads Spells
  constructor
  · intro read
    have tight : trim raw.toList = raw.toList := (Uuid.read_eq_ok_iff.mp read).trim_eq
    exact ⟨tight.symm ▸ read, by rw [trimmed, tight, String.ofList_toList]⟩
  · rintro ⟨read, tight⟩
    have same : trim raw.toList = raw.toList := by
      rw [← String.toList_ofList (l := trim raw.toList), ← trimmed, tight]
    exact same ▸ read

/-- Where an identifier is read, a text is, and the text spells it. -/
theorem Json.Decoder.uuid_agrees : Decoder.Agrees Uuid.Reads Decoder.uuid Decoder.text := by
  intro outline id
  cases outline with
  | text value =>
    rcases value with _ | value
    · exact ⟨nofun, nofun⟩
    · show (Uuid.read value.toList).mapError _ = .ok id ↔ ∃ raw, Except.ok value = .ok raw ∧ id.Reads raw
      rw [mapError_eq_ok_iff]
      constructor
      · exact fun read => ⟨value, rfl, read⟩
      · rintro ⟨_, same, read⟩
        cases same
        exact read
  | _ => exact ⟨nofun, nofun⟩

/-! ### Wishes without white space -/

/-- A line that may be empty means a line, without white space to be taken away, exactly if the identifier
is read from its text and the quantity is the same and not below one. -/
theorem LineCommand.rel_means_and_tight_iff {wish : Option LineCommand} {line : Option NewLine} :
    ((∀ given, wish = some given → trimmed given.itemId = given.itemId) ∧ Option.Rel Means wish line) ↔
      (∀ given, line = some given → 1 ≤ given.quantity) ∧
        Option.Rel (LineForm.Rel Uuid.Reads) line wish := by
  constructor
  · rintro ⟨tight, together⟩
    cases together with
    | none => exact ⟨nofun, .none⟩
    | @some wish line means =>
      refine ⟨fun given same => ?_, .some ⟨?_, means.quantity⟩⟩
      · rw [← Option.some.inj same, means.quantity]
        exact means.enough
      · exact Uuid.reads_iff_spells.mpr ⟨means.item, tight wish rfl⟩
  · rintro ⟨enough, together⟩
    cases together with
    | none => exact ⟨nofun, .none⟩
    | @some line wish alike =>
      obtain ⟨item, tight⟩ := Uuid.reads_iff_spells.mp alike.item
      refine ⟨fun given same => ?_, .some ⟨?_, alike.quantity, item⟩⟩
      · rw [← Option.some.inj same, tight]
      · exact alike.quantity ▸ enough line rfl

/-- No text of the wish has white space around it. -/
structure OrderCommand.Tight (command : OrderCommand) : Prop where
  account : trimmed command.accountId = command.accountId
  items : ∀ line, some line ∈ command.items → trimmed line.itemId = line.itemId

/-- The same of a whole wish. -/
theorem OrderCommand.means_and_tight_iff {command : OrderCommand} {order : NewOrder} :
    command.Means order ∧ command.Tight ↔
      OrderForm.Rel Uuid.Reads order command ∧
        ∀ line, some line ∈ order.items → 1 ≤ line.quantity := by
  have inside : ∀ {α : Type} {lines : List (Option α)} {good : α → Prop},
      (∀ line, some line ∈ lines → good line) ↔
        ∀ line ∈ lines, ∀ given, line = some given → good given :=
    ⟨fun all _ member given same => all given (same ▸ member),
      fun all line member => all _ member line rfl⟩
  have lines :
      ((∀ line, some line ∈ command.items → trimmed line.itemId = line.itemId) ∧
        List.Forall₂ (Option.Rel LineCommand.Means) command.items order.items) ↔
      (∀ line, some line ∈ order.items → 1 ≤ line.quantity) ∧
        List.Forall₂ (Option.Rel (LineForm.Rel Uuid.Reads)) order.items command.items := by
    rw [inside, inside, ← List.forall₂_and_left, ← List.forall₂_and_left]
    constructor
    · exact fun all => (all.imp fun _ _ => LineCommand.rel_means_and_tight_iff.mp).flip
    · exact fun all => (all.imp fun _ _ => LineCommand.rel_means_and_tight_iff.mpr).flip
  constructor
  · rintro ⟨means, tight⟩
    obtain ⟨enough, items⟩ := lines.mp ⟨tight.items, means.lines⟩
    exact ⟨⟨Uuid.reads_iff_spells.mpr ⟨means.account, tight.account⟩, items⟩, enough⟩
  · rintro ⟨alike, enough⟩
    obtain ⟨account, bare⟩ := Uuid.reads_iff_spells.mp alike.account
    obtain ⟨tight, items⟩ := lines.mpr ⟨enough, alike.items⟩
    exact ⟨⟨account, items⟩, bare, tight⟩

/-! ### Two readings -/

/-- Where an order is read, a wish is, with the texts of the identifiers. -/
theorem OrderCommand.decode_agrees :
    Decoder.Agrees (OrderForm.Rel Uuid.Reads) NewOrder.decode OrderCommand.decode :=
  (OrderForm.shape_agrees _ _ _ _ Decoder.uuid_agrees).decode (OrderForm.shape_separate _ _)

/-- **The two readings agree.** A text is read as an order without a quantity below one exactly if it is
read as a wish that means this order and has no white space around its identifiers. -/
theorem orders_decode_alike (symbols : List Symbol) (order : NewOrder) :
    (read NewOrder.decode symbols = .ok order ∧
        ∀ line, some line ∈ order.items → 1 ≤ line.quantity) ↔
      ∃ command, read OrderCommand.decode symbols = .ok command ∧ command.toNew = .ok order ∧
        command.Tight := by
  constructor
  · rintro ⟨reading, enough⟩
    obtain ⟨decoded, ended⟩ := read_eq_ok_iff.mp reading
    obtain ⟨command, decoded', alike⟩ := (OrderCommand.decode_agrees _ _).mp decoded
    obtain ⟨means, tight⟩ := OrderCommand.means_and_tight_iff.mpr ⟨alike, enough⟩
    exact ⟨command, read_eq_ok_iff.mpr ⟨decoded', ended⟩, OrderCommand.toNew_eq_ok_iff.mpr means, tight⟩
  · rintro ⟨command, reading, made, tight⟩
    obtain ⟨decoded', ended⟩ := read_eq_ok_iff.mp reading
    have means : command.Means order := OrderCommand.toNew_eq_ok_iff.mp made
    obtain ⟨alike, enough⟩ := OrderCommand.means_and_tight_iff.mp ⟨means, tight⟩
    have decoded := (OrderCommand.decode_agrees _ _).mpr ⟨command, decoded', alike⟩
    exact ⟨read_eq_ok_iff.mpr ⟨decoded, ended⟩, enough⟩

/-- An order that is written as the list of its fields: an empty line, and one that is a list again. -/
def listedOrder : Value :=
  .array [.text "0000000000004000800000000000000a",
    .array [.null, .array [.text "\x7b00000000-0000-4000-8000-00000000000B\x7d", .integer 2]]]

/-- Such an order is read, since the wish is. -/
theorem orders_decode_alike_sample :
    read NewOrder.decode (listedOrder.chars.map some) =
      .ok ⟨.numbered 10, [none, some ⟨.numbered 11, 2⟩]⟩ := by
  have exact : listedOrder.Exact :=
    ⟨trivial, ⟨trivial, ⟨trivial, ⟨by decide, by decide⟩, trivial⟩, trivial⟩, trivial⟩
  have wish : read OrderCommand.decode (listedOrder.chars.map some) =
      .ok ⟨"0000000000004000800000000000000a",
        [none, some ⟨"\x7b00000000-0000-4000-8000-00000000000B\x7d", 2⟩]⟩ := by
    rw [read_chars exact]
    rfl
  refine ((orders_decode_alike _ _).mpr ⟨_, wish, ?means, ?tight⟩).1
  case means => decide +kernel
  case tight =>
    refine ⟨by decide +kernel, fun line member => ?_⟩
    obtain rfl : line = ⟨"\x7b00000000-0000-4000-8000-00000000000B\x7d", 2⟩ := by simpa using member
    decide +kernel

end Storefront
