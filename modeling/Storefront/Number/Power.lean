/-
**Powers of two and of ten.**

`twoTo` and `tenTo` are the powers with a natural exponent.  The first are the bounds of words of so many
bits, the second shift decimals by so many places.
-/

namespace Storefront

/-- The power of two with an exponent. -/
def twoTo (exponent : Nat) : Nat := 1 <<< exponent

/-- The power of ten with an exponent. -/
def tenTo (exponent : Nat) : Nat := Nat.pow 10 exponent

@[simp]
theorem twoTo_zero : twoTo 0 = 1 := rfl

theorem twoTo_succ (exponent : Nat) : twoTo (exponent + 1) = 2 * twoTo exponent := by
  simp only [twoTo, Nat.shiftLeft_succ]

end Storefront
