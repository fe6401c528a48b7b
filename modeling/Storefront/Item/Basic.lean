/-
**Items.**

An `Item` is something in the catalogue that can be ordered.  It is made from a `NewItem` by
`Item.register`; `NewItem.decode` and `Item.json` say how both are written.
-/

import Storefront.Json.Decode
import Storefront.Json.Value
import Storefront.Time.Timestamp

namespace Storefront

open Storefront.Json

/-- An item to be made. -/
structure NewItem where
  title : String
  description : Option String
  price : Binary64
deriving DecidableEq

/-- An item of the catalogue. -/
structure Item where
  id : Uuid
  title : String
  description : Option String
  price : Binary64
  createdAt : Timestamp
  updatedAt : Timestamp
deriving DecidableEq

/-- The item that is described, with an identifier of its own, made at a moment. -/
def Item.register (input : NewItem) (id : Uuid) (now : Timestamp) : Item where
  id := id
  title := input.title
  description := input.description
  price := input.price
  createdAt := now
  updatedAt := now

/-- How an item is written. -/
def Item.json (item : Item) : Value :=
  .object [
    ("id", .text item.id.text),
    ("title", .text item.title),
    ("description", .optional .text item.description),
    ("price", .real item.price),
    ("created_at", .text item.createdAt.text),
    ("updated_at", .text item.updatedAt.text)]

namespace NewItem

/-- The fields of an item to be made that have been given. -/
structure Draft where
  title : Option String := none
  description : Option (Option String) := none
  price : Option Binary64 := none

/-- How an item to be made is written. -/
def shape : Shape Draft NewItem where
  name := "NewItem"
  fields := [
    Shape.field "title" .text Draft.title fun value draft => { draft with title := some value },
    Shape.field "description" (.optional .text) Draft.description
      fun value draft => { draft with description := some value },
    Shape.field "price" .real Draft.price fun value draft => { draft with price := some value }]
  draft := {}
  finish draft := do
    let title ← Shape.required "title" draft.title
    let price ← Shape.required "price" draft.price
    return { title := title, description := draft.description.join, price := price }

/-- Reads an item to be made. -/
def decode : Decoder NewItem := shape.decode

end NewItem

end Storefront
