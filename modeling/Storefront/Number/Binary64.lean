/-
**Floating point numbers of sixty-four bits.**

A number is kept as its bits, so that two of them are equal exactly when they are the same bits.
Arithmetic goes through the core library's `Float`.

* `Binary64.key` is the order of a column of such numbers: negative zero and zero are the same and
  every one that is no number comes last.
* `Binary64.ofDecimal?` is the number of a decimal `significand * 10 ^ exponent`, computed by one
  multiplication or division by a rounded power of ten and, for numbers far below one, by a few
  divisions; it is none where the result would be infinite.
-/

import Storefront.Number.Power

namespace Storefront

/-- A floating point number, as its bits. -/
structure Binary64 where
  bits : UInt64
deriving DecidableEq, Repr

namespace Binary64

instance : Inhabited Binary64 := ⟨⟨0⟩⟩

/-- The double that a machine number is. -/
def ofFloat (x : Float) : Binary64 := ⟨x.toBits⟩

/-- The machine number that a double is. -/
def toFloat (x : Binary64) : Float := Float.ofBits x.bits

/-- The bits without the sign. -/
def magnitude (x : Binary64) : Nat := x.bits.toNat % twoTo 63

/-- Is the sign bit set? -/
def isNegative (x : Binary64) : Bool := twoTo 63 ≤ x.bits.toNat

/-- The magnitude of infinity; greater ones are no numbers. -/
def infiniteMagnitude : Nat := 0x7FF * twoTo 52

/-- Is this no number at all? -/
def isNaN (x : Binary64) : Bool := infiniteMagnitude < x.magnitude

/-- Is this a number other than the infinities? -/
def isFinite (x : Binary64) : Bool := x.magnitude < infiniteMagnitude

/-- The number above all others. -/
def infinity : Binary64 := ⟨0x7FF0000000000000⟩

/-- The number below all others. -/
def negativeInfinity : Binary64 := ⟨0xFFF0000000000000⟩

/-- The usual pattern of what is no number. -/
def nan : Binary64 := ⟨0x7FF8000000000000⟩

/-- The zero with a sign. -/
def negativeZero : Binary64 := ⟨0x8000000000000000⟩

/-- The place of a number among all others: the order of numbers, both zeros the same, and after
infinity everything that is no number. -/
def key (x : Binary64) : Int :=
  if x.isNaN then twoTo 63
  else if x.isNegative then -(x.magnitude : Int) else x.magnitude

/-- The number nearest to a natural number. -/
def ofNat (n : Nat) : Binary64 := ofFloat (Float.ofNat n)

/-- The number nearest to an integer. -/
def ofInt (n : Int) : Binary64 :=
  if n < 0 then ofFloat (-Float.ofNat n.natAbs) else ofNat n.natAbs

/-! ### Decimals -/

/-- The largest exponent of a power of ten that is not infinite. -/
def maxPower : Nat := 308

/-- The power of ten with an exponent, rounded. -/
def powerOfTen (exponent : Nat) : Float := Float.ofScientific 1 false exponent

/-- Divides by `10 ^ exponent`, in steps of the largest power of ten; zero stays zero. -/
def divideByPower : (steps : Nat) → Float → (exponent : Nat) → Float
  | 0, x, _ => x
  | steps + 1, x, exponent =>
    if exponent ≤ maxPower then x / powerOfTen exponent
    else if x == 0 then x
    else divideByPower steps (x / powerOfTen maxPower) (exponent - maxPower)

/-- The magnitude of `significand * 10 ^ exponent`, if it is finite. -/
def scaled? (significand : Nat) (exponent : Int) : Option Float :=
  let x := Float.ofNat significand
  if exponent < 0 then
    some (divideByPower (exponent.natAbs / maxPower + 1) x exponent.natAbs)
  else if exponent ≤ maxPower then
    let y := x * powerOfTen exponent.natAbs
    if y.isInf then none else some y
  else if significand = 0 then some x
  else none

/-- The number for a decimal with a sign, if it is finite. -/
def ofDecimal? (negative : Bool) (significand : Nat) (exponent : Int) : Option Binary64 :=
  (scaled? significand exponent).map fun x => ofFloat (if negative then -x else x)

end Binary64

end Storefront
