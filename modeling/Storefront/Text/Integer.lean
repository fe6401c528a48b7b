/-
**Decimal integers.**

Reading an optional sign and ASCII digits into a bounded range of integers.  The text is read from
left to right: at each character a character that is no digit is reported first, then a number that
has left the range.  An unsigned range admits `+` only.
-/

import Storefront.Number.Power

namespace Storefront.Text

/-- The integers between two bounds. -/
structure IntegerRange where
  lowest : Int
  highest : Int
deriving DecidableEq

namespace IntegerRange

/-- Integers of `bits` bits with a sign. -/
def signed (bits : Nat) : IntegerRange := ⟨-twoTo (bits - 1), twoTo (bits - 1) - 1⟩

/-- Integers of `bits` bits without a sign. -/
def unsigned (bits : Nat) : IntegerRange := ⟨0, twoTo bits - 1⟩

/-- Is the number in the range? -/
def contains (range : IntegerRange) (n : Int) : Bool := range.lowest ≤ n && n ≤ range.highest

theorem contains_iff {range : IntegerRange} {n : Int} :
    range.contains n = true ↔ range.lowest ≤ n ∧ n ≤ range.highest := by
  simp [contains]

end IntegerRange

/-- Why a text is no integer of a range. -/
inductive IntegerError
  | empty
  | invalidDigit
  | tooLarge
  | tooSmall
deriving DecidableEq, Repr

/-- What is said of a text that is no integer of a range. -/
def IntegerError.message : IntegerError → String
  | .empty => "cannot parse integer from empty string"
  | .invalidDigit => "invalid digit found in string"
  | .tooLarge => "number too large to fit in target type"
  | .tooSmall => "number too small to fit in target type"

/-- The value of an ASCII digit. -/
def digit? (c : Char) : Option Nat := if c.isDigit then some (c.toNat - '0'.toNat) else none

/-- Digits after a sign: each one is appended to the number read so far, which grows away from zero
and must not leave the range. -/
def readDigits (range : IntegerRange) (negative : Bool) : Int → List Char → Except IntegerError Int
  | n, [] => .ok n
  | n, c :: rest =>
    match digit? c with
    | none => .error .invalidDigit
    | some d =>
      if negative then
        let next := n * 10 - d
        if next < range.lowest then .error .tooSmall else readDigits range negative next rest
      else
        let next := n * 10 + d
        if range.highest < next then .error .tooLarge else readDigits range negative next rest

/-- Reads an integer of the range: an optional sign and at least one digit, nothing else. -/
def readInteger (range : IntegerRange) : List Char → Except IntegerError Int
  | [] => .error .empty
  | ['+'] => .error .invalidDigit
  | ['-'] => .error .invalidDigit
  | '+' :: digits => readDigits range false 0 digits
  | '-' :: digits =>
    if range.lowest < 0 then readDigits range true 0 digits else .error .invalidDigit
  | digits => readDigits range false 0 digits

end Storefront.Text
