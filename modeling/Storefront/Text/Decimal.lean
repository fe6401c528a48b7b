/-
**Decimal digits.**

How numbers are written: `digits` without leading zeros, `padded` to at least a number of places,
`signed` with a sign in front of negative ones, and `fraction` as the places after a point with the
zeros at the end left out.
-/

namespace Storefront.Text

/-- The decimal digits of a number, without leading zeros. -/
def digits (n : Nat) : List Char := Nat.toDigits 10 n

/-- The digits of a number, filled up with zeros in front to at least `width` places. -/
def padded (width n : Nat) : List Char :=
  List.replicate (width - (digits n).length) '0' ++ digits n

/-- The digits of an integer after a sign if it is negative. -/
def signed (n : Int) : List Char :=
  if n < 0 then '-' :: digits n.natAbs else digits n.natAbs

/-- Characters without the zeros at their end. -/
def withoutTrailingZeros (cs : List Char) : List Char :=
  (cs.reverse.dropWhile fun c => c == '0').reverse

/-- The places after a point of `n` parts out of `10 ^ places`, with the point, or nothing. -/
def fraction (places n : Nat) : List Char :=
  match withoutTrailingZeros (padded places n) with
  | [] => []
  | cs => '.' :: cs

end Storefront.Text
