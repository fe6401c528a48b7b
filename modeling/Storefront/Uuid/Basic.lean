/-
**Identifiers.**

A `Uuid` is thirty-two hexadecimal digits.  It is written in lower case, in groups of eight, four,
four, four and twelve digits with hyphens between them (`Uuid.text`), and identifiers are ordered
as their sixteen bytes are, which is the lexicographic order of the digits.

* `Uuid.numbered` is the identifier of version 4 whose free bits spell a given number.

Main statement: `Uuid.numbered_injective` — numbers of at most sixty bits have different identifiers.
-/

import Storefront.Number.Power
import Storefront.Text.Hexadecimal

namespace Storefront

open Storefront.Text

/-- A universally unique identifier: its thirty-two hexadecimal digits, most significant first. -/
structure Uuid where
  digits : List (Fin 16)
  size : digits.length = 32
deriving DecidableEq

namespace Uuid

/-! ### Digits as text -/

/-- The identifier with these digits, if there are thirty-two of them. -/
def ofDigits? (digits : List (Fin 16)) : Option Uuid :=
  if size : digits.length = 32 then some ⟨digits, size⟩ else none

@[simp]
theorem ofDigits?_digits (id : Uuid) : ofDigits? id.digits = some id := by
  simp [ofDigits?, id.size]

/-- How many digits the five groups have. -/
def groupSizes : List Nat := [8, 4, 4, 4, 12]

/-- The hyphenated form: five groups of lower-case digits. -/
def chars (id : Uuid) : List Char :=
  let cs := id.digits.map hexChar
  cs.take 8 ++ '-' :: ((cs.drop 8).take 4 ++ '-' :: ((cs.drop 12).take 4 ++
    '-' :: ((cs.drop 16).take 4 ++ '-' :: cs.drop 20)))

/-- The text of an identifier. -/
def text (id : Uuid) : String := String.ofList id.chars

/-! ### Order and versions -/

/-- Does the first identifier come before the second one? -/
def before (first second : Uuid) : Bool :=
  decide (first.digits.map Fin.val < second.digits.map Fin.val)

/-- Is this an identifier of version 4 with the usual variant? -/
def isVersion4 (id : Uuid) : Bool :=
  id.digits[12]?.map Fin.val == some 4 &&
    (id.digits[16]?.map Fin.val).any fun digit => 8 ≤ digit && digit < 12

/-- The lowest `count` hexadecimal digits of a number, most significant first. -/
def lowDigits : (count : Nat) → Nat → List (Fin 16)
  | 0, _ => []
  | count + 1, n => lowDigits count (n / 16) ++ [lowDigit n]

theorem length_lowDigits (count n : Nat) : (lowDigits count n).length = count := by
  induction count generalizing n with
  | zero => rfl
  | succ count ih => simp [lowDigits, ih]

/-- The identifier of version 4 whose free bits spell a number. -/
def numbered (n : Nat) : Uuid where
  digits := lowDigits 12 (n >>> 74) ++ lowDigit 4 :: (lowDigits 3 (n >>> 62) ++
    lowDigit (8 + n >>> 60 % 4) :: lowDigits 15 n)
  size := by simp [length_lowDigits]

/-- The lowest digits tell small numbers apart. -/
theorem lowDigits_injective {count first second : Nat} (small : first < twoTo (4 * count))
    (small' : second < twoTo (4 * count)) (same : lowDigits count first = lowDigits count second) :
    first = second := by
  induction count generalizing first second with
  | zero =>
    rw [Nat.mul_zero, twoTo_zero] at small small'
    omega
  | succ count ih =>
    have more : twoTo (4 * (count + 1)) = 16 * twoTo (4 * count) := by
      rw [Nat.mul_succ]
      simp only [twoTo_succ]
      omega
    rw [more] at small small'
    obtain ⟨higher, lowest⟩ := List.append_inj' (same : lowDigits count (first / 16) ++ _ = _ ++ _) rfl
    have quotients := @ih (first / 16) (second / 16) (by omega) (by omega) higher
    have remainders : first % 16 = second % 16 :=
      congrArg Fin.val (List.singleton_inj.mp lowest)
    omega

/-- Numbers of at most sixty bits have different identifiers. -/
theorem numbered_injective {first second : Nat} (small : first < twoTo 60)
    (small' : second < twoTo 60) (same : numbered first = numbered second) : first = second := by
  have digits := congrArg digits same
  have tail := (List.append_inj' digits (by simp [length_lowDigits])).2
  have tail := (List.append_inj' (List.cons.inj tail).2 (by simp [length_lowDigits])).2
  exact @lowDigits_injective 15 _ _ small small' (List.cons.inj tail).2

theorem isVersion4_numbered (n : Nat) : (numbered n).isVersion4 = true := by
  have small : n >>> 60 % 4 < 4 := Nat.mod_lt _ (by decide)
  generalize bits : n >>> 60 % 4 = b at small
  simp only [isVersion4, numbered, bits]
  rw [List.getElem?_append_right (by simp [length_lowDigits]),
    List.getElem?_append_right (by simp [length_lowDigits])]
  simp only [length_lowDigits, Nat.sub_self, List.getElem?_cons_zero, Nat.reduceSub]
  rw [List.getElem?_cons_succ, List.getElem?_append_right (by simp [length_lowDigits])]
  simp only [length_lowDigits, Nat.sub_self, List.getElem?_cons_zero]
  obtain rfl | rfl | rfl | rfl : b = 0 ∨ b = 1 ∨ b = 2 ∨ b = 3 := by omega
  all_goals rfl

end Uuid

end Storefront
