/-
**Reading dates.**

Year, month and day with hyphens between them, in this order, with any white space before each
number and each hyphen and at the end.  The first thing that is wrong, from left to right, is
reported; whether the day exists is looked at last.
-/

import Storefront.Text.Integer
import Storefront.Text.Space
import Storefront.Time.Date

namespace Storefront.Date

open Storefront.Text

/-- Why a text is no date. -/
inductive ReadError
  | tooShort
  | invalid
  | outOfRange
  | tooLong
deriving DecidableEq, Repr

/-- What is said of a text that is no date. -/
def ReadError.message : ReadError → String
  | .tooShort => "premature end of input"
  | .invalid => "input contains invalid characters"
  | .outOfRange => "input is out of range"
  | .tooLong => "trailing input"

/-- Digits after the first one, at most `room` of them, appended to the number read so far. A number
has to fit into sixty-three bits. -/
def readMore : (room : Nat) → Nat → List Char → Except ReadError (Nat × List Char)
  | 0, n, cs => .ok (n, cs)
  | _, n, [] => .ok (n, [])
  | room + 1, n, c :: rest =>
    match digit? c with
    | none => .ok (n, c :: rest)
    | some d => if n * 10 + d < twoTo 63 then readMore room (n * 10 + d) rest else .error .outOfRange

/-- A number of at least one digit and at most `places` digits. -/
def readNumber (places : Nat) : List Char → Except ReadError (Nat × List Char)
  | [] => .error .tooShort
  | c :: rest =>
    match digit? c with
    | none => .error .invalid
    | some d => readMore (places - 1) d rest

/-- A year: any number of digits after a sign, at most four without one. -/
def readYear (cs : List Char) : Except ReadError (Int × List Char) := do
  let (year, rest) ← match cs with
    | '-' :: rest => (readNumber rest.length rest).map fun (n, rest) => (-(n : Int), rest)
    | '+' :: rest => (readNumber rest.length rest).map fun (n, rest) => ((n : Int), rest)
    | cs => (readNumber 4 cs).map fun (n, rest) => ((n : Int), rest)
  if (IntegerRange.signed 32).contains year then return (year, rest) else throw .outOfRange

/-- A number of one or two digits that is at most `highest`, and not zero. -/
def readPart (highest : Nat) (cs : List Char) : Except ReadError (Nat × List Char) := do
  let (n, rest) ← readNumber 2 cs
  if 1 ≤ n ∧ n ≤ highest then return (n, rest) else throw .outOfRange

/-- What follows a hyphen that has to be there. -/
def readHyphen : List Char → Except ReadError (List Char)
  | [] => .error .tooShort
  | '-' :: rest => .ok rest
  | _ => .error .invalid

/-- The characters after the white space at the beginning. -/
def skip (cs : List Char) : List Char := cs.dropWhile isSpace

/-- Reads a date: year, month and day with hyphens between them, and white space before each part. -/
def read (cs : List Char) : Except ReadError Date := do
  let (year, rest) ← readYear (skip cs)
  let rest ← readHyphen (skip rest)
  let (month, rest) ← readPart 12 (skip rest)
  let rest ← readHyphen (skip rest)
  let (day, rest) ← readPart 31 (skip rest)
  if (skip rest).isEmpty then
    match ofParts? year month day with
    | some date => return date
    | none => throw .outOfRange
  else throw .tooLong

end Storefront.Date
