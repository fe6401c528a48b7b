/-
**What sorting by keys means.**

A row comes before another one if it does at the first key at which the two are not level
(`SortKey.Before`).  `SortKey.Arranges` says that records stand in this order, those that are level in
their natural order.

Main statements:

* `SortKey.arranges_sorted`: sorting arranges records by the keys;
* `SortKey.Arranges.eq`: there is one arrangement only.
-/

import Storefront.Proofs.Database.Comparison

namespace Storefront.SortKey

variable [Collation] {α : Type} {row : α → Row} {keys : List SortKey} {records arranged : List α}

/-- A row comes before another one: it does at the first key at which they are not level. -/
def Before : List SortKey → Row → Row → Prop
  | [], _, _ => False
  | key :: rest, first, second =>
    Cell.order key.direction (first.get key.property) (second.get key.property) = .lt ∨
      Cell.order key.direction (first.get key.property) (second.get key.property) = .eq ∧
        Before rest first second

/-- Rows are level at all keys. -/
def Level (keys : List SortKey) (first second : Row) : Prop :=
  ∀ key ∈ keys, Cell.order key.direction (first.get key.property) (second.get key.property) = .eq

/-- Numbered records stand in the order of the keys or, if they are level, of their numbers. -/
def Ordered (keys : List SortKey) (row : α → Row) (first second : α × Nat) : Prop :=
  Before keys (row first.1) (row second.1) ∨
    Level keys (row first.1) (row second.1) ∧ first.2 < second.2

/-- The records arranged by the keys, the first one being the primary one; those that are level stand
in their natural order. -/
def Arranges (keys : List SortKey) (row : α → Row) (records arranged : List α) : Prop :=
  ∃ numbered : List (α × Nat), numbered.Perm records.zipIdx ∧ numbered.map Prod.fst = arranged ∧
    numbered.Pairwise (Ordered keys row)

/-! ### Comparing by terms -/

/-- Which of two rows comes first by the keys. -/
def compareBy (keys : List SortKey) (first second : Row) : Ordering :=
  OrderTerm.compareRows (SortOrder.terms ⟨keys⟩) first second

theorem compareBy_cons (key : SortKey) (rest : List SortKey) (first second : Row) :
    compareBy (key :: rest) first second =
      (Cell.order key.direction (first.get key.property) (second.get key.property)).then
        (compareBy rest first second) := rfl

theorem compareBy_eq_lt_iff {first second : Row} :
    compareBy keys first second = .lt ↔ Before keys first second := by
  induction keys with
  | nil => exact ⟨nofun, False.elim⟩
  | cons key rest ih =>
    rw [compareBy_cons, Ordering.then_eq_lt, ih]
    rfl

theorem compareBy_eq_eq_iff {first second : Row} :
    compareBy keys first second = .eq ↔ Level keys first second := by
  induction keys with
  | nil => exact ⟨fun _ => nofun, fun _ => rfl⟩
  | cons key rest ih =>
    rw [compareBy_cons, Ordering.then_eq_eq, ih, Level, Level, List.forall_mem_cons]

/-- Rows that can be compared by every column are compared by keys. -/
theorem transCmp_compareBy (comparable : Row.Comparable row) (keys : List SortKey) :
    Std.TransCmp fun first second => compareBy keys (row first) (row second) := by
  induction keys with
  | nil => exact { eq_swap := rfl, isLE_trans := fun _ _ => rfl }
  | cons key rest ih =>
    have first := comparable key.property key.direction
    exact inferInstanceAs (Std.TransCmp (compareLex
      (fun first second => Cell.order key.direction ((row first).get key.property)
        ((row second).get key.property))
      fun first second => compareBy rest (row first) (row second)))

/-! ### Sorting -/

/-- The first record does not come after the second one. -/
def notAfter (keys : List SortKey) (row : α → Row) (first second : α) : Bool :=
  (compareBy keys (row first) (row second)).isLE

/-- Rows are sorted as their records are. -/
theorem sortRows_map (keys : List SortKey) (records : List α) :
    sortRows (SortOrder.terms ⟨keys⟩) (records.map row) =
      (records.mergeSort (notAfter keys row)).map row := by
  have same : ∀ first ∈ records, ∀ second ∈ records, notAfter keys row first second =
      (compareBy keys (row first) (row second)).isLE := fun _ _ _ _ => rfl
  exact (List.map_mergeSort same).symm

section Comparable

variable (comparable : Row.Comparable row)

include comparable

theorem ordered_of_zipIdxLE {first second : α × Nat}
    (sorted : List.zipIdxLE (notAfter keys row) first second = true) (other : first.2 ≠ second.2) :
    Ordered keys row first second := by
  have swapped : compareBy keys (row first.1) (row second.1) =
      (compareBy keys (row second.1) (row first.1)).swap :=
    (transCmp_compareBy comparable keys).eq_swap
  rw [Ordered, ← compareBy_eq_lt_iff, ← compareBy_eq_eq_iff]
  unfold List.zipIdxLE notAfter at sorted
  rw [swapped] at sorted ⊢
  cases order : compareBy keys (row second.1) (row first.1) with
  | lt => simp [order] at sorted
  | gt => exact Or.inl rfl
  | eq =>
    have le : first.2 ≤ second.2 := by simpa [order] using sorted
    exact Or.inr ⟨rfl, lt_of_le_of_ne le other⟩

theorem notAfter_trans (first second third : α) (earlier : notAfter keys row first second = true)
    (later : notAfter keys row second third = true) : notAfter keys row first third = true :=
  (transCmp_compareBy comparable keys).isLE_trans earlier later

theorem notAfter_total (first second : α) :
    (notAfter keys row first second || notAfter keys row second first) = true := by
  have swapped : compareBy keys (row first) (row second) = _ :=
    (transCmp_compareBy comparable keys).eq_swap
  unfold notAfter
  rw [swapped]
  cases compareBy keys (row second) (row first) <;> rfl

/-- **Sorting arranges records by the keys.** -/
theorem arranges_sorted (keys : List SortKey) (records : List α) :
    Arranges keys row records (records.mergeSort (notAfter keys row)) := by
  have permuted := List.mergeSort_perm records.zipIdx (List.zipIdxLE (notAfter keys row))
  have sorted : (records.zipIdx.mergeSort (List.zipIdxLE (notAfter keys row))).Pairwise
      fun first second => List.zipIdxLE (notAfter keys row) first second = true :=
    List.pairwise_mergeSort (List.zipIdxLE_trans (notAfter_trans comparable))
      (List.zipIdxLE_total (notAfter_total comparable)) _
  have numbers : ((records.zipIdx.mergeSort (List.zipIdxLE (notAfter keys row))).map Prod.snd).Nodup := by
    rw [(permuted.map Prod.snd).nodup_iff, List.zipIdx_map_snd]
    exact List.nodup_range'
  rw [List.nodup_iff_pairwise_ne, List.pairwise_map] at numbers
  exact ⟨_, permuted, List.mergeSort_zipIdx,
    (sorted.and numbers).imp fun both => ordered_of_zipIdxLE comparable both.1 both.2⟩

/-- Numbered records stand in one order only. -/
theorem Ordered.asymm {first second : α × Nat} (forth : Ordered keys row first second) :
    ¬ Ordered keys row second first := by
  have swapped : compareBy keys (row first.1) (row second.1) =
      (compareBy keys (row second.1) (row first.1)).swap :=
    (transCmp_compareBy comparable keys).eq_swap
  rw [Ordered, ← compareBy_eq_lt_iff, ← compareBy_eq_eq_iff] at forth ⊢
  rw [swapped] at forth
  cases order : compareBy keys (row second.1) (row first.1) with
  | lt => simp [order] at forth
  | gt => simp
  | eq =>
    have less : first.2 < second.2 := by simpa [order] using forth
    simp [less.le]

/-- **There is one arrangement only.** -/
theorem Arranges.eq {other : List α} (arranges : Arranges keys row records arranged)
    (others : Arranges keys row records other) : arranged = other := by
  obtain ⟨numbered, permuted, rfl, ordered⟩ := arranges
  obtain ⟨numbered', permuted', rfl, ordered'⟩ := others
  have same : numbered = numbered' := by
    refine List.Perm.eq_of_pairwise ?_ ordered ordered' (permuted.trans permuted'.symm)
    exact fun first second _ _ forth back => absurd back (forth.asymm comparable)
  rw [same]

end Comparable

/-- Every record stands in the arrangement once. -/
theorem Arranges.perm (arranges : Arranges keys row records arranged) : arranged.Perm records := by
  obtain ⟨numbered, permuted, rfl, _⟩ := arranges
  have same := permuted.map Prod.fst
  rwa [List.zipIdx_map_fst] at same

end Storefront.SortKey
