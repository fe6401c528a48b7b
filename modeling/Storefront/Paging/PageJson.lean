/-
**Pages in JSON.**

A page is written as its totals and its elements; `Page.decode` reads what `Page.json` writes.
-/

import Storefront.Json.Decode
import Storefront.Json.Value
import Storefront.Paging.Page

namespace Storefront.Page

open Storefront.Json

variable {α : Type}

/-- How a page is written. -/
def json (element : α → Value) (page : Page α) : Value :=
  .object [
    ("total_pages", .integer page.totalPages),
    ("total_elements", .integer page.totalElements),
    ("elements", .array (page.elements.map element))]

/-- The fields of a page that have been given. -/
structure Draft (α : Type) where
  totalPages : Option Int := none
  totalElements : Option Int := none
  elements : Option (List α) := none

/-- How a page is written. -/
def shape (element : Decoder α) : Shape (Draft α) (Page α) where
  name := "Page"
  fields := [
    Shape.field "total_pages" .int64 Draft.totalPages
      fun value draft => { draft with totalPages := some value },
    Shape.field "total_elements" .int64 Draft.totalElements
      fun value draft => { draft with totalElements := some value },
    Shape.field "elements" (.list element) Draft.elements
      fun value draft => { draft with elements := some value }]
  draft := {}
  finish draft := do
    let totalPages ← Shape.required "total_pages" draft.totalPages
    let totalElements ← Shape.required "total_elements" draft.totalElements
    let elements ← Shape.required "elements" draft.elements
    return ⟨totalPages, totalElements, elements⟩

/-- Reads a page as it is written. -/
def decode (element : Decoder α) : Decoder (Page α) := (shape element).decode

end Storefront.Page
