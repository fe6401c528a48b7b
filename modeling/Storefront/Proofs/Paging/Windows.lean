/-
**Windows of a size, one after the other.**

Cut from the beginning of a list on, windows of a size make up the list, and `totalPages` says how many
there are (`totalPages_eq_ceil`).  A page of so many rows is there exactly if rows are left where it
begins (`lt_totalPages_iff`); whatever is said of pages at the borders follows from that.

The same computation may be made with integers of 64 bits (`totalPages?`), where no step may leave their
range: none does.

Main statements:

* `totalPages?_eq`: the number of pages is computed without leaving the range;
* `PageRequest.divide_of_size`: the pages of a size divide the rows (`Page.Divide`).
-/

import Mathlib.Data.Rat.Floor
import Storefront.Paging.Page
import Storefront.Text.Integer

namespace Storefront

/-! ### The number of pages -/

/-- The number of pages is the quotient rounded up. -/
theorem totalPages_eq_ceil (total size : Nat) :
    totalPages total size = if size = 0 ∨ total = 0 then 0 else ⌈(total : ℚ) / size⌉ := by
  split
  · next zero =>
    rw [totalPages_eq, if_pos (by omega)]
  · next sized =>
    have positive : (0 : ℚ) < size := by exact_mod_cast (by omega : 0 < size)
    obtain ⟨below, above⟩ :=
      totalPages_eq_ceiling (by omega : (0 : Int) < total) (by omega : (0 : Int) < size)
    symm
    rw [Int.ceil_eq_iff, lt_div_iff₀ positive, div_le_iff₀ positive]
    exact ⟨by exact_mod_cast below, by exact_mod_cast above⟩

/-- A page is there if rows are left where it begins. -/
theorem lt_totalPages_iff {total size : Nat} (sized : 0 < size) {page : Nat} :
    page < (totalPages total size).toNat ↔ page * size < total := by
  have cast : page * size ≤ total - 1 ↔ (page : Int) * size ≤ ((total - 1 : Nat) : Int) := by
    exact_mod_cast Iff.rfl
  rw [totalPages_eq]
  by_cases empty : total = 0
  · rw [if_pos (by omega), empty]
    simp
  · have fewer : ((total : Int) - 1) = ((total - 1 : Nat) : Int) := by omega
    rw [if_neg (by omega), fewer]
    have quotient := Int.le_ediv_iff_mul_le (a := page) (b := ((total - 1 : Nat) : Int))
      (c := size) (by omega)
    have nonneg : 0 ≤ ((total - 1 : Nat) : Int) / size := Int.ediv_nonneg (by omega) (by omega)
    omega

/-- The integers of 64 bits with a sign. -/
def int64 : Text.IntegerRange := .signed 64

theorem int64_contains_iff {n : Int} : int64.contains n = true ↔ -2 ^ 63 ≤ n ∧ n < 2 ^ 63 := by
  have power : (twoTo (64 - 1) : Int) = 2 ^ 63 := rfl
  rw [Text.IntegerRange.contains_iff, int64, Text.IntegerRange.signed, power]
  dsimp only
  omega

/-- The integer if it is in the range. -/
def int64? (n : Int) : Option Int := if int64.contains n then some n else none

theorem int64?_eq {n : Int} (low : -2 ^ 63 ≤ n) (high : n < 2 ^ 63) : int64? n = some n :=
  if_pos (int64_contains_iff.mpr ⟨low, high⟩)

/-- The number of pages if no step of the computation leaves the range. -/
def totalPages? (total size : Int) : Option Int := countPages int64? total size

/-- **No step leaves the range** if the number of rows is in it. -/
theorem totalPages?_eq {total : Int} (inside : int64.contains total = true) (size : Int) :
    totalPages? total size = some (totalPages total size) := by
  rw [totalPages?, countPages, totalPages_eq]
  split
  · rfl
  · next sized =>
    obtain ⟨-, bound⟩ := int64_contains_iff.mp inside
    have quotient : (total - 1).tdiv size = (total - 1) / size := Int.tdiv_eq_ediv_of_nonneg (by omega)
    have low : 0 ≤ (total - 1) / size := Int.ediv_nonneg (by omega) (by omega)
    have high : (total - 1) / size ≤ total - 1 := Int.ediv_le_self _ (by omega)
    rw [int64?_eq (by omega) (by omega), Option.bind_eq_bind, Option.bind_some, quotient,
      int64?_eq (by omega) (by omega)]
    exact int64?_eq (by omega) (by omega)

/-! ### Windows -/

variable {α : Type} {rows : List α}

/-- Windows of a size make up the list from its beginning on. -/
theorem take_eq_flatMap_windows (rows : List α) (size pages : Nat) :
    rows.take (pages * size) =
      (List.range pages).flatMap fun page => (rows.drop (page * size)).take size := by
  induction pages with
  | zero => simp
  | succ pages ih =>
    rw [Nat.succ_mul, List.take_add, ih, List.range_succ, List.flatMap_append, List.flatMap_singleton]

/-- Pages of a size at all offsets, which divide the rows. -/
structure Page.Divide (rows : List α) (size : Nat) (page : Int → Page α) : Prop where
  /-- Every page has the totals of all rows. -/
  totals : ∀ offset, (page offset).totalElements = rows.length ∧
    (page offset).totalPages = ⌈(rows.length : ℚ) / size⌉
  /-- No step of the computation leaves the range. -/
  computed : ∀ offset, totalPages? rows.length size = some (page offset).totalPages
  /-- Joined, the pages are the rows. -/
  joined : (List.range (page 0).totalPages.toNat).flatMap
    (fun number : Nat => (page (number * size)).elements) = rows
  /-- The offsets are in the range. -/
  inside : ∀ number : Nat, number < (page 0).totalPages.toNat →
    int64.contains (number * size) = true
  /-- Every page but the last one is full. -/
  full : ∀ number : Nat, number + 1 < (page 0).totalPages.toNat →
    (page (number * size)).elements.length = size
  last : ∀ number : Nat, number + 1 = (page 0).totalPages.toNat →
    1 ≤ (page (number * size)).elements.length ∧ (page (number * size)).elements.length ≤ size
  /-- Nothing is left behind the last row. -/
  beyond : ∀ offset, (rows.length : Int) ≤ offset → (page offset).elements = []

namespace PageRequest

/-- The page of some rows. -/
def page (request : PageRequest) (rows : List α) : Page α :=
  .ofWindow (request.window rows) rows.length request.size

variable {request : PageRequest}

theorem window_of_size (sized : 0 < request.size) :
    request.window rows = (rows.drop request.offset).take request.size := by
  rw [window, limit, if_neg (by omega)]

theorem window_unbounded (unbounded : request.size = 0) :
    request.window rows = rows.drop request.offset := by
  rw [window, limit, if_pos unbounded]

/-- Where there is no bound, the page from the beginning on is everything. -/
theorem page_unbounded {size : Int} (unbounded : max 0 (min 1000 size) = 0) (sort : SortOrder) :
    (clamped size 0 sort).page rows = ⟨0, rows.length, rows⟩ := by
  have unbounded : (clamped size 0 sort).size = 0 := by
    change min size.toNat 1000 = 0
    omega
  have start : (clamped size 0 sort).offset = 0 := rfl
  have pages : totalPages rows.length (0 : Nat) = 0 :=
    (totalPages_eq _ _).trans (if_pos (Or.inr le_rfl))
  rw [page, window_unbounded unbounded, unbounded, start, List.drop_zero, Page.ofWindow, pages]

/-- A page of a size has the rows behind its offset, as many as it may, and the totals of all rows. -/
theorem page_of_size {size : Int} {bound : Nat} (clamps : bound = max 0 (min 1000 size))
    (sized : 0 < bound) (offset : Int) (sort : SortOrder) :
    (clamped size offset sort).page rows =
      ⟨totalPages rows.length bound, rows.length, (rows.drop offset.toNat).take bound⟩ := by
  have same : (clamped size offset sort).size = bound := by
    change min size.toNat 1000 = bound
    omega
  rw [page, window_of_size (by rw [same]; exact sized), same]
  rfl

/-- **The pages of a size divide the rows.** -/
theorem divide_of_size (fits : int64.contains rows.length = true) {size : Int} {bound : Nat}
    (clamps : bound = max 0 (min 1000 size)) (sized : 0 < bound) (sort : SortOrder) :
    Page.Divide rows bound fun offset => (clamped size offset sort).page rows := by
  have start : ∀ number : Nat, ((number : Int) * bound).toNat = number * bound := fun _ => rfl
  -- All that is said of borders follows from this.
  have there : ∀ number : Nat, number < (totalPages rows.length bound).toNat ↔
      number * bound < rows.length := fun number => lt_totalPages_iff sized
  simp only [page_of_size clamps sized]
  refine { totals := ?_, computed := ?_, joined := ?_, inside := ?_, full := ?_, last := ?_, beyond := ?_ }
  · intro offset
    refine ⟨rfl, (totalPages_eq_ceil _ _).trans ?_⟩
    split
    · next zero =>
      obtain rfl | zero := zero
      · exact absurd sized (lt_irrefl 0)
      · rw [zero]
        simp
    · rfl
  · exact fun offset => totalPages?_eq fits _
  · have whole : rows.length ≤ (totalPages rows.length bound).toNat * bound :=
      not_lt.mp fun more => lt_irrefl _ ((there _).mpr more)
    simp only [start]
    rw [← take_eq_flatMap_windows, List.take_of_length_le whole]
  · intro number
    rw [there, int64_contains_iff]
    intro before
    have cast : (number : Int) * bound < rows.length := by exact_mod_cast before
    have nonneg : (0 : Int) ≤ number * bound := by positivity
    have := (int64_contains_iff.mp fits).2
    omega
  · intro number
    rw [there, start, List.length_take, List.length_drop, Nat.succ_mul]
    omega
  · intro number final
    have := (there number).mp (final ▸ Nat.lt_succ_self number)
    rw [start, List.length_take, List.length_drop]
    omega
  · intro offset behind
    rw [List.drop_of_length_le (by omega), List.take_nil]

end PageRequest

end Storefront
