/-
**Pages.**

A `PageRequest` asks for a window of a listing, a `Page` answers with the rows of the window and the
totals of the whole listing.

* A request has a size of at most `PageRequest.maxSize`, where size zero means that the window has
  no end, and an offset.  `PageRequest.clamped` makes one from any two integers.
* `totalPages` is the number of pages of a size that hold all rows; `countPages` computes it and leaves
  open what an arithmetic step does with its result.

Main statement: `totalPages_eq_ceiling` — for positive counts it is the quotient rounded up.
-/

import Storefront.Paging.SortOrder

namespace Storefront

/-- A window of a listing: `size` rows, or all of them if that is zero, after the first `offset`. -/
structure PageRequest where
  size : Nat
  offset : Nat
  sort : SortOrder
  bounded : size ≤ 1000
deriving DecidableEq

namespace PageRequest

/-- The largest size of a window with an end. -/
def maxSize : Nat := 1000

/-- The size of a window that is not asked for otherwise. -/
def defaultSize : Int := 10

/-- A request from any two integers: negative ones count as zero and the size is capped. -/
def clamped (size offset : Int) (sort : SortOrder) : PageRequest where
  size := min size.toNat maxSize
  offset := offset.toNat
  sort := sort
  bounded := Nat.min_le_right _ _

/-- All rows in their natural order. -/
def unpaged : PageRequest := ⟨0, 0, .natural, Nat.zero_le _⟩

/-- How many rows the window may have, if there is a limit. -/
def limit (request : PageRequest) : Option Nat :=
  if request.size = 0 then none else some request.size

/-- The rows of a listing that are in the window. -/
def window {α : Type} (request : PageRequest) (rows : List α) : List α :=
  match request.limit with
  | none => rows.drop request.offset
  | some limit => (rows.drop request.offset).take limit

end PageRequest

/-- The number of pages, computed step by step; `keep` says what becomes of the result of a step. -/
def countPages {m : Type → Type} [Monad m] (keep : Int → m Int) (total size : Int) : m Int :=
  if total ≤ 0 ∨ size ≤ 0 then pure 0
  else do
    let before ← keep (total - 1)
    let full ← keep (before.tdiv size)
    keep (full + 1)

/-- How many pages of a size hold all elements; zero if there are none or the size is zero. -/
def totalPages (total size : Int) : Int :=
  (countPages pure total size : Id Int)

/-- What is divided is not negative, so it does not matter which way the quotient is rounded to. -/
theorem totalPages_eq (total size : Int) :
    totalPages total size = if total ≤ 0 ∨ size ≤ 0 then 0 else (total - 1) / size + 1 := by
  unfold totalPages countPages
  split
  · rfl
  · have quotient : (total - 1).tdiv size = (total - 1) / size :=
      Int.tdiv_eq_ediv_of_nonneg (by omega)
    exact congrArg (· + 1) quotient

/-- For positive counts the number of pages is the quotient rounded up. -/
theorem totalPages_eq_ceiling {total size : Int} (filled : 0 < total) (sized : 0 < size) :
    (totalPages total size - 1) * size < total ∧ total ≤ totalPages total size * size := by
  have below : (total - 1) / size * size ≤ total - 1 := Int.ediv_mul_le _ (by omega)
  have above : total - 1 < ((total - 1) / size + 1) * size := Int.lt_ediv_add_one_mul_self _ sized
  rw [totalPages_eq, if_neg (by omega)]
  constructor
  · rw [Int.add_sub_cancel]; omega
  · omega

/-- A window of rows and the totals of the whole listing. -/
structure Page (α : Type) where
  totalPages : Int
  totalElements : Int
  elements : List α
deriving DecidableEq

namespace Page

variable {α β : Type}

/-- The page with these elements of a listing of `total` rows, cut into pages of a size. -/
def ofWindow (elements : List α) (total size : Int) : Page α :=
  ⟨Storefront.totalPages total size, total, elements⟩

/-- A page of nothing. -/
def empty : Page α := ⟨0, 0, []⟩

/-- Changes the elements and keeps the totals. -/
def map (f : α → β) (page : Page α) : Page β :=
  ⟨page.totalPages, page.totalElements, page.elements.map f⟩

end Page

end Storefront
