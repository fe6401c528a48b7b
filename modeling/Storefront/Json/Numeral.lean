/-
**Numerals.**

A numeral has a sign, digits, perhaps digits after a point and perhaps an exponent.  `Numeral.read`
takes the longest numeral at the beginning of a text, and `Numeral.number` is its value: an integer of
at most sixty-four bits if it is written as one, otherwise a double.

The value of a double is computed from as many digits as fit into sixty-four bits: the digits of the
whole part that do not fit count as powers of ten, those after the point are dropped.
-/

import Storefront.Number.Binary64
import Storefront.Number.Power
import Storefront.Text.Integer
import Storefront.Text.Utf8

namespace Storefront.Json

open Storefront.Text

/-- The value of a numeral. -/
inductive Number
  | integer (value : Int)
  | real (value : Binary64)
  /-- A numeral beyond all doubles. -/
  | beyond
deriving DecidableEq

/-- A number as it is written. -/
structure Numeral where
  negative : Bool
  whole : List Nat
  /-- The digits after the point, if there is one. -/
  fraction : List Nat := []
  /-- Is the exponent negative, and its digits, if there is one. -/
  exponent : Option (Bool × List Nat) := none
deriving DecidableEq

namespace Numeral

/-! ### Reading -/

/-- The value of a symbol that is a digit. -/
def digitOf? (symbol : Symbol) : Option Nat := symbol.bind digit?

/-- The digits at the beginning, and what follows them. -/
def digitRun (symbols : List Symbol) : List Nat × List Symbol :=
  ((symbols.takeWhile fun symbol => (digitOf? symbol).isSome).filterMap digitOf?,
    symbols.dropWhile fun symbol => (digitOf? symbol).isSome)

/-- Digits of which there has to be at least one. -/
def digits? (symbols : List Symbol) : Option (List Nat × List Symbol) :=
  match digitRun symbols with
  | ([], _) => none
  | (found, rest) => some (found, rest)

/-- The whole part: a zero in front of other digits is refused. -/
def readWhole? (symbols : List Symbol) : Option (List Nat × List Symbol) :=
  match digitRun symbols with
  | ([], _) => none
  | (0 :: _ :: _, _) => none
  | (found, rest) => some (found, rest)

/-- The digits after a point, if one follows. -/
def readFraction? : List Symbol → Option (List Nat × List Symbol)
  | some '.' :: rest => digits? rest
  | rest => some ([], rest)

/-- The sign of an exponent, and what follows it. -/
def exponentSign : List Symbol → Bool × List Symbol
  | some '-' :: rest => (true, rest)
  | some '+' :: rest => (false, rest)
  | rest => (false, rest)

/-- The exponent, if one follows. -/
def readExponent? (symbols : List Symbol) : Option (Option (Bool × List Nat) × List Symbol) :=
  match symbols with
  | some 'e' :: rest | some 'E' :: rest =>
    let (negative, rest) := exponentSign rest
    (digits? rest).map fun (found, rest) => (some (negative, found), rest)
  | rest => some (none, rest)

/-- A numeral after its sign. -/
def readUnsigned? (negative : Bool) (symbols : List Symbol) : Option (Numeral × List Symbol) := do
  let (whole, rest) ← readWhole? symbols
  let (fraction, rest) ← readFraction? rest
  let (exponent, rest) ← readExponent? rest
  return (⟨negative, whole, fraction, exponent⟩, rest)

/-- The longest numeral at the beginning, and what follows it. -/
def read? : List Symbol → Option (Numeral × List Symbol)
  | some '-' :: rest => readUnsigned? true rest
  | rest => readUnsigned? false rest

/-! ### Values -/

/-- Appends digits to a number while it fits into sixty-four bits; the digits left over are those
from the first one that does not fit. -/
def append (n : Nat) : List Nat → Nat × List Nat
  | [] => (n, [])
  | digit :: rest =>
    if n * 10 + digit < twoTo 64 then append (n * 10 + digit) rest else (n, digit :: rest)

/-- The largest exponent whose size is looked at. -/
def maxExponent : Nat := twoTo 31 - 1

/-- A double from a significand and a power of ten. -/
def real (negative : Bool) (significand : Nat) (exponent : Int) : Number :=
  match Binary64.ofDecimal? negative significand exponent with
  | some value => .real value
  | none => .beyond

/-- A double with the written exponent on top of the power of ten of its significand. -/
def scaled (negative : Bool) (significand : Nat) (power : Int) : Option (Bool × List Nat) → Number
  | none => real negative significand power
  | some (below, digits) =>
    let size := digits.foldl (fun n digit => n * 10 + digit) 0
    if maxExponent < size then
      if significand ≠ 0 ∧ !below then .beyond else real negative 0 0
    else real negative significand (if below then power - size else power + size)

/-- The value of a numeral. -/
def number (numeral : Numeral) : Number :=
  let (whole, excess) := append 0 numeral.whole
  if numeral.fraction.isEmpty && numeral.exponent.isNone && excess.isEmpty then
    if !numeral.negative then .integer whole
    else if whole = 0 ∨ twoTo 63 < whole then real true whole 0
    else .integer (-whole)
  else
    let (significand, dropped) := append whole numeral.fraction
    let power : Int := excess.length - (numeral.fraction.length - dropped.length : Nat)
    scaled numeral.negative significand power numeral.exponent

/-- Digits that spell a number of at most sixty-four bits are appended without a rest. -/
theorem append_fits {n : Nat} {digits : List Nat}
    (small : digits.foldl (fun n digit => n * 10 + digit) n < twoTo 64) :
    append n digits = (digits.foldl (fun n digit => n * 10 + digit) n, []) := by
  induction digits generalizing n with
  | nil => rfl
  | cons digit rest ih =>
    have grows : ∀ (ds : List Nat) (m : Nat), m ≤ ds.foldl (fun n digit => n * 10 + digit) m := by
      intro ds
      induction ds with
      | nil => intro m; exact Nat.le_refl m
      | cons d ds ih => intro m; exact Nat.le_trans (by omega) (ih (m * 10 + d))
    have fits : n * 10 + digit < twoTo 64 := Nat.lt_of_le_of_lt (grows rest _) small
    rw [append, if_pos fits, ih small]
    rfl

end Numeral

end Storefront.Json
