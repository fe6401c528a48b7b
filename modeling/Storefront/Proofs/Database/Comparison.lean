/-
**Rows can be compared by every column.**

The cells of a column are of one kind, some of them missing, and the cells of a kind can be compared
(`Cell.Kind`): texts as the database orders them, all others by a key in a linear order (`Cell.Keyed`).  So
rows can be compared by every column in every direction (`Row.Comparable`).

Main statements:

* `Cell.Kind.transCmp_order`: cells of one kind, some of which are missing, can be compared;
* `Item.comparable_row`, `Order.comparable_row`, `OrderLine.comparable_row`: so can rows of records.
-/

import Mathlib.Data.String.Basic
import Mathlib.Data.List.Basic
import Storefront.Database.Server
import Storefront.Order.Store

namespace Storefront

/-! ### Cells of a column -/

section Cells

variable {β : Type} {wrap : β → Cell} {cmp : β → β → Ordering}

/-- A comparison of values some of which are missing: those stand at one end. -/
def compareMissing (front : Bool) (cmp : β → β → Ordering) : Option β → Option β → Ordering
  | none, none => .eq
  | none, some _ => if front then .lt else .gt
  | some _, none => if front then .gt else .lt
  | some first, some second => cmp first second

instance orientedCmp_compareMissing [Std.OrientedCmp cmp] (front : Bool) :
    Std.OrientedCmp (compareMissing front cmp) where
  eq_swap {first second} := by
    cases first with
    | none => cases second <;> cases front <;> rfl
    | some value =>
      cases second with
      | none => cases front <;> rfl
      | some other =>
        have swapped : cmp value other = _ := Std.OrientedCmp.eq_swap
        exact swapped

instance transCmp_compareMissing [Std.TransCmp cmp] (front : Bool) :
    Std.TransCmp (compareMissing front cmp) where
  isLE_trans {first second third} earlier later := by
    cases first with
    | none =>
      cases second <;> cases third <;> cases front
      all_goals
        first
        | rfl
        | exact absurd earlier Bool.false_ne_true
        | exact absurd later Bool.false_ne_true
    | some value =>
      cases second with
      | none =>
        cases third <;> cases front
        all_goals
          first
          | rfl
          | exact absurd earlier Bool.false_ne_true
          | exact absurd later Bool.false_ne_true
      | some other =>
        cases third with
        | none =>
          cases front
          · rfl
          · exact absurd later Bool.false_ne_true
        | some last =>
          have trans : (cmp value last).isLE = true := Std.TransCmp.isLE_trans earlier later
          exact trans

/-- A comparison in one way or the other. -/
def Way.along (cmp : β → β → Ordering) : Way → β → β → Ordering
  | .ascending => cmp
  | .descending => fun first second => cmp second first

instance Way.transCmp_along [Std.TransCmp cmp] (way : Way) : Std.TransCmp (way.along cmp) := by
  cases way with
  | ascending => exact inferInstanceAs (Std.TransCmp cmp)
  | descending =>
    have opposite : Std.TransCmp fun first second => cmp second first := Std.TransCmp.opposite
    exact opposite

/-- Do missing values come first? -/
def Direction.front (direction : Direction) : Bool :=
  match direction.absent with
  | some .first => true
  | some .last => false
  | none => direction.way == .descending

theorem Cell.order_optional [Collation] {wrap : β → Cell}
    (present : ∀ value, (wrap value).isNull = false) (direction : Direction) (first second : Option β) :
    order direction (optional wrap first) (optional wrap second) =
      compareMissing direction.front
        (direction.way.along fun first second => compare (wrap first) (wrap second)) first second := by
  have missing : (optional wrap none).isNull = true := rfl
  have there value : (optional wrap (some value)).isNull = false := present value
  obtain ⟨way, absent⟩ := direction
  cases first with
  | none =>
    cases second with
    | none => rfl
    | some other => simp only [order, missing, there, compareMissing, Direction.front]; rfl
  | some value =>
    cases second with
    | none => simp only [order, missing, there, compareMissing, Direction.front]; rfl
    | some other =>
      simp only [order, there]
      cases way <;> rfl

end Cells

/-! ### Kinds of cells -/

section Choices

variable {less more : Prop} [Decidable less] [Decidable more]

theorem choice_eq_lt_iff :
    (if less then Ordering.lt else if more then Ordering.gt else Ordering.eq) = .lt ↔ less := by
  by_cases first : less
  · simp [first]
  · by_cases second : more <;> simp [first, second]

theorem choice_eq_gt_iff (only : more → ¬ less) :
    (if less then Ordering.lt else if more then Ordering.gt else Ordering.eq) = .gt ↔ more := by
  by_cases second : more
  · simp [second, only second]
  · by_cases first : less <;> simp [first, second]

end Choices

/-- Cells of one kind can be compared. -/
structure Cell.Kind [Collation] {β : Type} (wrap : β → Cell) : Prop where
  present : ∀ value, (wrap value).isNull = false
  transCmp : Std.TransCmp fun first second => compare (wrap first) (wrap second)

/-- Cells of one kind are compared by a key in a linear order. -/
structure Cell.Keyed [Collation] {β γ : Type} [LinearOrder γ] (wrap : β → Cell) (key : β → γ) :
    Prop where
  present : ∀ value, (wrap value).isNull = false
  less : ∀ {first second}, compare (wrap first) (wrap second) = .lt ↔ key first < key second
  more : ∀ {first second}, compare (wrap first) (wrap second) = .gt ↔ key second < key first

namespace Cell.Keyed

variable [Collation] {β γ : Type} [LinearOrder γ] {wrap : β → Cell} {key : β → γ}

/-- What is compared by a key can be compared. -/
theorem kind (keyed : Keyed wrap key) : Kind wrap where
  present := keyed.present
  transCmp := by
    have isLE {first second : β} : (compare (wrap first) (wrap second)).isLE = true ↔
        key first ≤ key second := by
      rw [← not_lt, ← keyed.more]
      cases compare (wrap first) (wrap second) <;> simp
    refine { eq_swap := ?_, isLE_trans := ?_ }
    · intro first second
      cases forth : compare (wrap first) (wrap second) with
      | lt => rw [keyed.more.mpr (keyed.less.mp forth)]; rfl
      | gt => rw [keyed.less.mpr (keyed.more.mp forth)]; rfl
      | eq =>
        cases back : compare (wrap second) (wrap first) with
        | lt => rw [keyed.more.mpr (keyed.less.mp back)] at forth; cases forth
        | gt => rw [keyed.less.mpr (keyed.more.mp back)] at forth; cases forth
        | eq => rfl
    · intro first second third earlier later
      exact isLE.mpr ((isLE.mp earlier).trans (isLE.mp later))

theorem integer : Keyed Cell.integer (fun value : Int => value) where
  present _ := rfl
  less := choice_eq_lt_iff
  more := choice_eq_gt_iff fun before => not_lt_of_gt before

theorem real : Keyed Cell.real Binary64.key where
  present _ := rfl
  less := choice_eq_lt_iff
  more := choice_eq_gt_iff fun before => not_lt_of_gt before

theorem instant : Keyed Cell.instant Timestamp.nanos where
  present _ := rfl
  less := choice_eq_lt_iff
  more := choice_eq_gt_iff fun before => not_lt_of_gt before

theorem uuid : Keyed Cell.uuid (fun id => id.digits.map Fin.val) where
  present _ := rfl
  less := choice_eq_lt_iff.trans decide_eq_true_iff
  more := (choice_eq_gt_iff fun before => by
    rw [Uuid.before, decide_eq_true_iff] at before ⊢
    exact not_lt_of_gt before).trans decide_eq_true_iff

end Cell.Keyed

namespace Cell.Kind

variable [Collation] {α β : Type} {wrap : β → Cell}

/-- Texts have no key: any order of the database will do. -/
theorem text : Kind Cell.text where
  present _ := rfl
  transCmp := Collation.transCmp

/-- Cells of one kind, some of which are missing, can be compared in every direction. -/
theorem transCmp_order (kind : Kind wrap) {cells : α → Cell} {value? : α → Option β}
    (shape : ∀ record, cells record = optional wrap (value? record)) (direction : Direction) :
    Std.TransCmp fun first second => order direction (cells first) (cells second) := by
  have comparison : (fun first second => order direction (cells first) (cells second)) =
      fun first second => compareMissing direction.front
        (direction.way.along fun first second => compare (wrap first) (wrap second))
        (value? first) (value? second) := by
    funext first second
    rw [shape, shape, order_optional kind.present]
  have trans := kind.transCmp
  rw [comparison]
  exact {
    eq_swap := Std.OrientedCmp.eq_swap
    isLE_trans := fun earlier later => Std.TransCmp.isLE_trans earlier later }

end Cell.Kind

/-! ### Rows of records -/

/-- A column that a row does not have has no value. -/
theorem Row.get_zip_of_absent {columns : List String} {cells : List Cell} {column : String}
    (absent : column ∉ columns) : Row.get (columns.zip cells) column = .null := by
  have missing : (columns.zip cells).lookup column = none := by
    refine List.lookup_eq_none_iff.mpr fun entry member => bne_iff_ne.mpr fun same => ?_
    exact absent (same ▸ (List.of_mem_zip member).1)
  rw [Row.get, missing]
  rfl

variable [Collation]

/-- The cells of every column can be compared in every direction. -/
def Row.Comparable {α : Type} (row : α → Row) : Prop :=
  ∀ column direction, Std.TransCmp fun first second =>
    Cell.order direction ((row first).get column) ((row second).get column)

/-- A column that is missing everywhere can be compared. -/
theorem Cell.transCmp_null {α : Type} (direction : Direction) :
    Std.TransCmp fun _ _ : α => order direction .null .null := by
  have level : order direction .null .null = .eq := order_refl direction .null
  rw [level]
  exact { eq_swap := rfl, isLE_trans := fun _ _ => rfl }

/-- The rows of a table can be compared if the columns of the table can. -/
theorem Row.comparable_zip {α : Type} {table : Table} {cells : α → List Cell}
    (known : ∀ column ∈ table.columns, ∀ direction, Std.TransCmp fun first second =>
      Cell.order direction (Row.get (table.columns.zip (cells first)) column)
        (Row.get (table.columns.zip (cells second)) column)) :
    Row.Comparable fun record => table.columns.zip (cells record) := by
  intro column direction
  by_cases member : column ∈ table.columns
  · exact known column member direction
  · have missing (record : α) : Row.get (table.columns.zip (cells record)) column = .null :=
      Row.get_zip_of_absent member
    simp only [missing]
    exact Cell.transCmp_null direction

theorem Item.comparable_row : Row.Comparable Item.row := by
  refine Row.comparable_zip fun column member direction => ?_
  have id : ∀ item : Item, item.row.get "id" = .optional .uuid (some item.id) := fun _ => rfl
  have title : ∀ item : Item, item.row.get "title" = .optional .text (some item.title) := fun _ => rfl
  have description : ∀ item : Item, item.row.get "description" = .optional .text item.description :=
    fun _ => rfl
  have price : ∀ item : Item, item.row.get "price" = .optional .real (some item.price) := fun _ => rfl
  have createdAt : ∀ item : Item, item.row.get "created_at" = .optional .instant (some item.createdAt) :=
    fun _ => rfl
  have updatedAt : ∀ item : Item, item.row.get "updated_at" = .optional .instant (some item.updatedAt) :=
    fun _ => rfl
  simp only [Table.columns, List.mem_cons, List.not_mem_nil, or_false] at member
  rcases member with rfl | rfl | rfl | rfl | rfl | rfl
  · exact Cell.Keyed.uuid.kind.transCmp_order id direction
  · exact Cell.Kind.text.transCmp_order title direction
  · exact Cell.Kind.text.transCmp_order description direction
  · exact Cell.Keyed.real.kind.transCmp_order price direction
  · exact Cell.Keyed.instant.kind.transCmp_order createdAt direction
  · exact Cell.Keyed.instant.kind.transCmp_order updatedAt direction

theorem Order.comparable_row : Row.Comparable Order.row := by
  refine Row.comparable_zip fun column member direction => ?_
  have id : ∀ order : Order, order.row.get "id" = .optional .uuid (some order.id) := fun _ => rfl
  have account : ∀ order : Order, order.row.get "account_id" = .optional .uuid (some order.accountId) :=
    fun _ => rfl
  have createdAt : ∀ order : Order,
      order.row.get "created_at" = .optional .instant (some order.createdAt) := fun _ => rfl
  have updatedAt : ∀ order : Order,
      order.row.get "updated_at" = .optional .instant (some order.updatedAt) := fun _ => rfl
  simp only [Table.columns, List.mem_cons, List.not_mem_nil, or_false] at member
  rcases member with rfl | rfl | rfl | rfl
  · exact Cell.Keyed.uuid.kind.transCmp_order id direction
  · exact Cell.Keyed.uuid.kind.transCmp_order account direction
  · exact Cell.Keyed.instant.kind.transCmp_order createdAt direction
  · exact Cell.Keyed.instant.kind.transCmp_order updatedAt direction

theorem OrderLine.comparable_row : Row.Comparable OrderLine.row := by
  refine Row.comparable_zip fun column member direction => ?_
  have id : ∀ line : OrderLine, line.row.get "id" = .optional .uuid (some line.id) := fun _ => rfl
  have order : ∀ line : OrderLine, line.row.get "order_id" = .optional .uuid (some line.orderId) :=
    fun _ => rfl
  have item : ∀ line : OrderLine, line.row.get "item_id" = .optional .uuid (some line.itemId) :=
    fun _ => rfl
  have quantity : ∀ line : OrderLine,
      line.row.get "quantity" = .optional .integer (some line.quantity) := fun _ => rfl
  have position : ∀ line : OrderLine,
      line.row.get "position" = .optional .integer (some line.position) := fun _ => rfl
  have createdAt : ∀ line : OrderLine,
      line.row.get "created_at" = .optional .instant (some line.createdAt) := fun _ => rfl
  have updatedAt : ∀ line : OrderLine,
      line.row.get "updated_at" = .optional .instant (some line.updatedAt) := fun _ => rfl
  simp only [Table.columns, List.mem_cons, List.not_mem_nil, or_false] at member
  rcases member with rfl | rfl | rfl | rfl | rfl | rfl | rfl
  · exact Cell.Keyed.uuid.kind.transCmp_order id direction
  · exact Cell.Keyed.uuid.kind.transCmp_order order direction
  · exact Cell.Keyed.uuid.kind.transCmp_order item direction
  · exact Cell.Keyed.integer.kind.transCmp_order quantity direction
  · exact Cell.Keyed.integer.kind.transCmp_order position direction
  · exact Cell.Keyed.instant.kind.transCmp_order createdAt direction
  · exact Cell.Keyed.instant.kind.transCmp_order updatedAt direction

end Storefront
