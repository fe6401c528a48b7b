/-
**Sort orders.**

A sort order is a list of keys, each a property and a direction; the first key is the primary one.

* `SortOrder.read` reads a text such as `title DESC, id`: keys between commas, empty ones skipped,
  ascending where no direction is given.
* `SortOrder.orderBy` writes the sort as the list of an `ORDER BY` clause.  Since properties become part
  of a statement there, every one of them must be among the allowed ones.

What a sort is refused for is a `SortError`.
-/

import Storefront.Paging.Direction

namespace Storefront

open Storefront.Text

/-- Why a sort is refused. -/
inductive SortError
  /-- The text after a property spells no direction. -/
  | unknownDirection (text : String)
  /-- A property is not a word of letters, digits and underscores. -/
  | invalidProperty (property : String)
  /-- A property is not among those that rows may be sorted by. -/
  | notAllowed (property : String) (allowed : List String)
deriving DecidableEq, Repr

/-- Why a sort is refused, in words. -/
def SortError.message : SortError → String
  | .unknownDirection text => "Unknown sort direction '" ++ text ++ "'"
  | .invalidProperty property => "Invalid sort property '" ++ property ++ "'"
  | .notAllowed property allowed =>
    "Cannot sort by '" ++ property ++ "'; allowed properties: "
      ++ String.intercalate ", " allowed

/-- One key of a sort order. -/
structure SortKey where
  property : String
  direction : Direction := {}
deriving DecidableEq, Repr

/-- A key as it stands in an `ORDER BY` list. -/
def SortKey.text (key : SortKey) : String := key.property ++ " " ++ key.direction.text

/-- A list of keys, the primary one first. -/
structure SortOrder where
  keys : List SortKey
deriving DecidableEq, Repr

namespace SortOrder

/-- No keys at all: the order in which rows are found. -/
def natural : SortOrder := ⟨[]⟩

instance : Inhabited SortOrder := ⟨natural⟩

/-- Adds a key of lower precedence. -/
def andThen (sort : SortOrder) (property : String) (direction : Direction) : SortOrder :=
  ⟨sort.keys ++ [⟨property, direction⟩]⟩

/-- Are there no keys? -/
def isEmpty (sort : SortOrder) : Bool := sort.keys.isEmpty

/-- The texts of the keys, in order. -/
def texts (sort : SortOrder) : List String := sort.keys.map SortKey.text

/-! ### Reading -/

/-- A direction on its own. -/
def readDirection (cs : List Char) : Except SortError Direction :=
  match Direction.read? cs with
  | some direction => .ok direction
  | none => .error (.unknownDirection (String.ofList (trim cs)))

/-- A word of ASCII letters, digits and underscores. -/
def isIdentifier (cs : List Char) : Bool :=
  !cs.isEmpty && cs.all fun c => c.isAlphanum || c == '_'

/-- The property at the beginning of an entry and, if a space follows it, the text after that. -/
def splitEntry (cs : List Char) : List Char × Option (List Char) :=
  match cs.dropWhile fun c => !isSpace c with
  | [] => (cs, none)
  | _ :: rest => (cs.takeWhile fun c => !isSpace c, some rest)

/-- One entry that is trimmed and not empty. Its direction is looked at before its property. -/
def readEntry (cs : List Char) : Except SortError SortKey := do
  let (property, rest) := splitEntry cs
  let direction ← match rest with
    | none => pure {}
    | some rest => readDirection rest
  if isIdentifier property then return ⟨String.ofList property, direction⟩
  else throw (.invalidProperty (String.ofList property))

/-- The entries between commas, trimmed, without the empty ones. -/
def entryTexts (cs : List Char) : List (List Char) :=
  ((pieces ',' cs).map trim).filter fun entry => !entry.isEmpty

/-- Entries from left to right; the first one that is refused decides. -/
def readEntries : List (List Char) → Except SortError (List SortKey)
  | [] => .ok []
  | entry :: rest => do
    let first ← readEntry entry
    let others ← readEntries rest
    return first :: others

/-- Reads a sort: entries separated by commas. -/
def read (raw : String) : Except SortError SortOrder :=
  (readEntries (entryTexts raw.toList)).map SortOrder.mk

/-! ### The clause -/

/-- The sort itself if all its properties are allowed; otherwise the first that is not is named. -/
def check (sort : SortOrder) (allowed : List String) : Except SortError SortOrder :=
  match sort.keys.find? fun key => !allowed.contains key.property with
  | some key => .error (.notAllowed key.property allowed)
  | none => .ok sort

/-- The list of an `ORDER BY` clause, or none for the natural order. -/
def orderBy (sort : SortOrder) (allowed : List String) : Except SortError (Option String) := do
  let sort ← sort.check allowed
  return if sort.isEmpty then none else some (String.intercalate ", " sort.texts)

/-- A sort that passes the check has only allowed properties. -/
theorem mem_of_check {sort checked : SortOrder} {allowed : List String}
    (passed : sort.check allowed = .ok checked) :
    checked = sort ∧ ∀ key ∈ sort.keys, key.property ∈ allowed := by
  unfold check at passed
  split at passed
  · cases passed
  · next absent =>
    cases passed
    refine ⟨rfl, fun key member => ?_⟩
    have := List.find?_eq_none.mp absent key member
    simpa using this

end SortOrder

end Storefront
