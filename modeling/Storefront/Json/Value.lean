/-
**JSON values.**

A `Value` is what an answer carries, and `Value.render` is how it is written: without spaces, members in
their order, doubles with the fewest digits that read back.  A double that is not finite has no
numeral and is written as `null`.
-/

import Storefront.Json.Literal
import Storefront.Number.Shortest
import Storefront.Text.Decimal

namespace Storefront.Json

open Storefront.Text

/-- A JSON value that is written. The members of an object stand in the order in which they are written. -/
inductive Value
  | null
  | boolean (value : Bool)
  | integer (value : Int)
  | real (value : Binary64)
  | text (value : String)
  | array (elements : List Value)
  | object (members : List (String × Value))

namespace Value

/-- The value of something that may be absent. -/
def optional {α : Type} (encode : α → Value) : Option α → Value
  | some value => encode value
  | none => .null

mutual

/-- The characters of a value, without white space. A double that is no finite number is written as `null`.
-/
def chars : Value → List Char
  | .null => ['n', 'u', 'l', 'l']
  | .boolean true => ['t', 'r', 'u', 'e']
  | .boolean false => ['f', 'a', 'l', 's', 'e']
  | .integer n => signed n
  | .real x => if x.isFinite then Shortest.chars x else ['n', 'u', 'l', 'l']
  | .text s => Literal.chars s.toList
  | .array [] => ['[', ']']
  | .array (first :: rest) => '[' :: (first.chars ++ elementChars rest)
  | .object [] => ['\x7b', '\x7d']
  | .object (first :: rest) => '\x7b' :: (memberChars first ++ membersChars rest)
termination_by structural value => value

/-- The elements after the first one, each after a comma, and the closing bracket. -/
def elementChars : List Value → List Char
  | [] => [']']
  | value :: rest => ',' :: (value.chars ++ elementChars rest)
termination_by structural values => values

/-- A name and its value. -/
def memberChars : String × Value → List Char
  | (name, value) => Literal.chars name.toList ++ ':' :: value.chars
termination_by structural member => member

/-- The members after the first one, each after a comma, and the closing brace. -/
def membersChars : List (String × Value) → List Char
  | [] => ['\x7d']
  | member :: rest => ',' :: (memberChars member ++ membersChars rest)
termination_by structural members => members

end

/-- The text of a value. -/
def render (value : Value) : String := String.ofList value.chars

end Value

end Storefront.Json
