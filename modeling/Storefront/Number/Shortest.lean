/-
**Shortest decimals.**

The fewest digits that read back as a floating point number.  A finite number other than zero is
`mantissa * 2 ^ exponent`, and the reals that round to it are an interval around it, whose ends
belong to it exactly when the mantissa is even.  For one digit, two digits and so on the two
neighbours of the number on the grid of decimals of that many digits are tried; the first grid with
a neighbour in the interval gives the digits, the nearer neighbour if both are in it, and of two
equally near ones the even one.

* `Shortest.digits` gives these digits and their power of ten;
* `Shortest.text` writes the number: positional if the power of ten of the first digit is from -5 to
  15, with a point in any case, and otherwise as a digit, a point and further digits if there are
  any, `e`, a sign and the exponent.
-/

import Storefront.Number.Binary64
import Storefront.Number.Power
import Storefront.Text.Decimal

namespace Storefront.Shortest

open Storefront.Text

/-- A positive real number as a quotient of natural numbers, together with the interval of the reals
that round to it: all are multiples of `1 / denominator`. -/
structure Interval where
  lower : Nat
  value : Nat
  upper : Nat
  denominator : Nat
  closed : Bool

/-- The interval of a number with this magnitude, which is positive and finite. -/
def Interval.ofMagnitude (magnitude : Nat) : Interval :=
  let field := magnitude / twoTo 52
  let fraction := magnitude % twoTo 52
  let mantissa := if field = 0 then fraction else fraction + twoTo 52
  let shift := if field = 0 then 1 else field
  -- the number is mantissa * 2 ^ (shift - 1075); everything is counted in quarters of that unit
  let narrow := if fraction = 0 ∧ 1 < field then 1 else 2
  let scale := twoTo shift
  ⟨(4 * mantissa - narrow) * scale, 4 * mantissa * scale, (4 * mantissa + 2) * scale, twoTo 1077,
    mantissa % 2 == 0⟩

/-- Is the decimal `digits * 10 ^ (-places)` in the interval? -/
def Interval.contains (interval : Interval) (digits : Nat) (places : Int) : Bool :=
  let left := digits * interval.denominator * tenTo (-places).toNat
  let grow := tenTo places.toNat
  if interval.closed then
    interval.lower * grow ≤ left && left ≤ interval.upper * grow
  else
    interval.lower * grow < left && left < interval.upper * grow

/-- The decimal with `places` digits after the point that stands for the interval, if one of the two
neighbours of the value does. -/
def Interval.decimal? (interval : Interval) (places : Int) : Option Nat :=
  let top := interval.value * tenTo places.toNat
  let unit := interval.denominator * tenTo (-places).toNat
  let below := top / unit
  let above := below + 1
  match interval.contains below places && below != 0, interval.contains above places with
  | true, false => some below
  | false, true => some above
  | false, false => none
  | true, true =>
    let distance := 2 * (top % unit)
    if distance < unit then some below
    else if unit < distance then some above
    else if below % 2 = 0 then some below else some above

/-- The power of ten of the first digit of a value that is less than one, counted down. -/
def firstPlace (value denominator : Nat) : (fuel : Nat) → Nat → Nat
  | 0, place => place
  | fuel + 1, place =>
    if denominator ≤ value * tenTo place then place
    else firstPlace value denominator fuel (place + 1)

/-- The power of ten of the first digit of the value. -/
def Interval.leading (interval : Interval) : Int :=
  if interval.denominator ≤ interval.value then
    (Text.digits (interval.value / interval.denominator)).length - 1
  else -(firstPlace interval.value interval.denominator 400 1 : Int)

/-- The shortest decimal of at most seventeen digits: the digits and the number of places. -/
def Interval.shortest (interval : Interval) : (fuel : Nat) → (count : Nat) → Nat × Int
  | 0, _ => (0, 0)
  | fuel + 1, count =>
    let places := (count : Int) - 1 - interval.leading
    match interval.decimal? places with
    | some found => (found, places)
    | none => interval.shortest fuel (count + 1)

/-- The digits of a positive finite magnitude, none of them a zero at the end, and the power of ten
of the first one. -/
def digits (magnitude : Nat) : List Char × Int :=
  let (found, places) := (Interval.ofMagnitude magnitude).shortest 17 1
  let cs := Text.digits found
  (withoutTrailingZeros cs, (cs.length : Int) - 1 - places)

/-- Digits in positional form, the first one at a power of ten. -/
def positional (cs : List Char) (leading : Int) : List Char :=
  if leading < 0 then
    '0' :: '.' :: (List.replicate (leading.natAbs - 1) '0' ++ cs)
  else
    let whole := leading.toNat + 1
    cs.take whole ++ List.replicate (whole - cs.length) '0' ++
      '.' :: (if cs.length ≤ whole then ['0'] else cs.drop whole)

/-- Digits with an exponent. -/
def exponential (cs : List Char) (leading : Int) : List Char :=
  cs.take 1 ++ (if cs.length ≤ 1 then [] else '.' :: cs.drop 1) ++
    'e' :: (if leading < 0 then '-' else '+') :: Text.digits leading.natAbs

/-- The characters of a finite number. -/
def chars (x : Binary64) : List Char :=
  let unsigned :=
    if x.magnitude = 0 then ['0', '.', '0']
    else
      let (cs, leading) := digits x.magnitude
      if -5 ≤ leading ∧ leading ≤ 15 then positional cs leading else exponential cs leading
  if x.isNegative then '-' :: unsigned else unsigned

/-- The text of a number. -/
def text (x : Binary64) : String := String.ofList (chars x)

end Storefront.Shortest
