/-
**Directions.**

A direction says which way rows are ordered and, if it says so, at which end rows without a value
stand.  There are six of them; `Direction.text` is how each is written and `Direction.read?` reads
it in either case, with any white space between its words.

Main statement: `read?_text` — every direction is read back from its text.
-/

import Storefront.Text.Space

namespace Storefront

open Storefront.Text

/-- Smallest first or largest first. -/
inductive Way
  | ascending
  | descending
deriving DecidableEq, Repr

/-- An end of a list of rows. -/
inductive End
  | first
  | last
deriving DecidableEq, Repr

/-- A way to order rows and, if given, the end at which rows without a value stand. -/
structure Direction where
  way : Way := .ascending
  absent : Option End := none
deriving DecidableEq, Repr

namespace Direction

instance : Inhabited Direction := ⟨{}⟩

/-- The six directions. -/
def all : List Direction :=
  [⟨.ascending, none⟩, ⟨.descending, none⟩,
    ⟨.ascending, some .first⟩, ⟨.descending, some .first⟩,
    ⟨.ascending, some .last⟩, ⟨.descending, some .last⟩]

theorem mem_all (direction : Direction) : direction ∈ all := by
  rcases direction with ⟨way, _ | absent⟩ <;> cases way <;> try cases absent
  all_goals decide

/-- The words in which a direction is written. -/
def spelling : Direction → List String
  | ⟨.ascending, none⟩ => ["ASC"]
  | ⟨.descending, none⟩ => ["DESC"]
  | ⟨.ascending, some .first⟩ => ["ASC", "NULLS", "FIRST"]
  | ⟨.descending, some .first⟩ => ["DESC", "NULLS", "FIRST"]
  | ⟨.ascending, some .last⟩ => ["ASC", "NULLS", "LAST"]
  | ⟨.descending, some .last⟩ => ["DESC", "NULLS", "LAST"]

/-- The words of a direction with a space between them. -/
def text (direction : Direction) : String := String.intercalate " " direction.spelling

/-- The direction that the text spells. -/
def read? (cs : List Char) : Option Direction :=
  let found := (words cs).map fun word => upper word
  all.find? fun direction => decide (direction.spelling.map String.toList = found)

theorem read?_text (direction : Direction) : read? direction.text.toList = some direction := by
  rcases direction with ⟨way, _ | absent⟩ <;> cases way <;> try cases absent
  all_goals decide +kernel

end Direction

end Storefront
