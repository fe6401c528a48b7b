/-
**Rows that nothing forbids.**

`checkRows` lets a batch of rows into a table if every row keeps the bounds, repeats no key of a row
before it, and refers only to rows that exist.  This module says so without the order in which the
server looks, and draws the two consequences that everything else about stored rows rests on:

* `nodup_of_checkEach`: a column whose values may occur only once still has no value twice when a
  batch has been let in;
* `checkRows_of_more`: what was let in once is let in again when the other tables have more rows.
-/

import Storefront.Database.Server

namespace Storefront

/-! ### What the server looks at -/

namespace Table

variable {table : Table} {present : List Row} {row : Row}

theorem violatedKey?_eq_none_iff :
    table.violatedKey? present row = none ↔
      ∀ key ∈ table.uniqueKeys, ∀ other ∈ present, sameIn key.2 row other = false := by
  simp [violatedKey?]

theorem dangling?_eq_none_iff {tables : Tables} :
    table.dangling? tables row = none ↔
      ∀ reference ∈ table.references, ∃ other ∈ tables.rows reference.2.2,
        row.get reference.2.1 = other.get "id" := by
  simp [dangling?]

/-- A row is let in if it keeps the bounds and repeats no key. -/
theorem checkRow_eq_ok_iff :
    table.checkRow present row = .ok () ↔
      table.violatedBound? row = none ∧ table.violatedKey? present row = none := by
  unfold checkRow
  cases table.violatedBound? row with
  | some constraint => simp
  | none =>
    cases table.violatedKey? present row with
    | some constraint => simp
    | none => simp

theorem checkEach_cons_iff {rest : List Row} :
    table.checkEach present (row :: rest) = .ok () ↔
      table.checkRow present row = .ok () ∧ table.checkEach (present ++ [row]) rest = .ok () := by
  rw [checkEach]
  cases table.checkRow present row with
  | error report => simp [bind, Except.bind]
  | ok done => simp [bind, Except.bind]

/-- A batch is let in row by row exactly if every row keeps the bounds, and no row repeats a key of a
row that is there or of one before it. -/
theorem checkEach_eq_ok_iff {rows : List Row} :
    table.checkEach present rows = .ok () ↔
      (∀ row ∈ rows, table.violatedBound? row = none) ∧ ∀ key ∈ table.uniqueKeys,
        (∀ row ∈ rows, ∀ other ∈ present, sameIn key.2 row other = false) ∧
          rows.Pairwise fun earlier later => sameIn key.2 later earlier = false := by
  induction rows generalizing present with
  | nil => exact ⟨fun _ => ⟨nofun, fun _ _ => ⟨nofun, .nil⟩⟩, fun _ => rfl⟩
  | cons first rest ih =>
    rw [checkEach_cons_iff, checkRow_eq_ok_iff, violatedKey?_eq_none_iff, ih]
    constructor
    · rintro ⟨⟨bound, clash⟩, bounds, keys⟩
      refine ⟨List.forall_mem_cons.mpr ⟨bound, bounds⟩, fun key unique => ?_⟩
      obtain ⟨apart, within⟩ := keys key unique
      refine ⟨List.forall_mem_cons.mpr ⟨clash key unique, fun row member other there => ?_⟩,
        .cons (fun row member => ?_) within⟩
      · exact apart row member other (List.mem_append_left _ there)
      · exact apart row member first (List.mem_append_right _ (List.mem_singleton_self _))
    · rintro ⟨bounds, keys⟩
      obtain ⟨bound, bounds⟩ := List.forall_mem_cons.mp bounds
      refine ⟨⟨bound, fun key unique => (keys key unique).1 first List.mem_cons_self⟩, bounds, ?_⟩
      intro key unique
      obtain ⟨apart, within⟩ := keys key unique
      obtain ⟨before, within⟩ := List.pairwise_cons.mp within
      refine ⟨fun row member other there => ?_, within⟩
      rcases List.mem_append.mp there with old | new
      · exact apart row (List.mem_cons_of_mem _ member) other old
      · exact List.mem_singleton.mp new ▸ before row member

/-- Every row of a batch that is let in keeps the bounds. -/
theorem violatedBound?_of_checkEach {rows : List Row} (fits : table.checkEach present rows = .ok ())
    (member : row ∈ rows) : table.violatedBound? row = none :=
  (checkEach_eq_ok_iff.mp fits).1 row member

/-- A column whose values may occur only once still has no value twice when a batch has been let
in. -/
theorem nodup_of_checkEach {name column : String} {rows : List Row}
    (unique : (name, [column]) ∈ table.uniqueKeys)
    (filled : ∀ row ∈ rows, (row.get column).isNull = false)
    (fits : table.checkEach present rows = .ok ())
    (distinct : (present.map fun row => row.get column).Nodup) :
    ((present ++ rows).map fun row => row.get column).Nodup := by
  obtain ⟨apart, within⟩ := (checkEach_eq_ok_iff.mp fits).2 _ unique
  have differ : ∀ row ∈ rows, ∀ other, sameIn [column] row other = false →
      row.get column ≠ other.get column := by
    intro row member other clash same
    simp [sameIn, ← same, filled row member] at clash
  rw [List.map_append, List.nodup_append]
  refine ⟨distinct, List.pairwise_map.mpr (within.imp_of_mem fun _ later clash => ?_), ?_⟩
  · exact (differ _ later _ clash).symm
  · intro value old other new same
    obtain ⟨before, there, rfl⟩ := List.mem_map.mp old
    obtain ⟨row, member, rfl⟩ := List.mem_map.mp new
    exact differ row member before (apart row member before there) same.symm

end Table

/-! ### Batches -/

section Batches

variable {tables : Tables} {table : Table} {rows : List Row}

/-- A batch is let in if each row is let in behind the ones before it, and all that it refers to
exists. -/
theorem checkRows_eq_ok_iff :
    checkRows tables table rows = .ok () ↔
      table.checkEach (tables.rows table) rows = .ok () ∧
        ∀ row ∈ rows, table.dangling? tables row = none := by
  unfold checkRows
  cases table.checkEach (tables.rows table) rows with
  | error report => simp [bind, Except.bind]
  | ok done =>
    cases found : rows.findSome? (table.dangling? tables) with
    | none =>
      rw [List.findSome?_eq_none_iff] at found
      simpa [bind, Except.bind] using found
    | some constraint =>
      obtain ⟨row, member, broken⟩ := List.exists_of_findSome?_eq_some found
      refine ⟨by simp [bind, Except.bind], fun all => ?_⟩
      rw [all.2 row member] at broken
      cases broken

/-- An empty batch is always let in. -/
theorem checkRows_nil : checkRows tables table [] = .ok () :=
  checkRows_eq_ok_iff.mpr ⟨rfl, by simp⟩

/-- What was let in once is let in again when the other tables have more rows. -/
theorem checkRows_of_more {more : Tables} (same : more.rows table = tables.rows table)
    (kept : ∀ other, ∀ row ∈ tables.rows other, row ∈ more.rows other)
    (fits : checkRows tables table rows = .ok ()) : checkRows more table rows = .ok () := by
  obtain ⟨each, whole⟩ := checkRows_eq_ok_iff.mp fits
  refine checkRows_eq_ok_iff.mpr ⟨same ▸ each, fun row member => ?_⟩
  rw [Table.dangling?_eq_none_iff]
  intro reference needed
  obtain ⟨other, there, refers⟩ := Table.dangling?_eq_none_iff.mp (whole row member) reference needed
  exact ⟨other, kept _ other there, refers⟩

end Batches

end Storefront
