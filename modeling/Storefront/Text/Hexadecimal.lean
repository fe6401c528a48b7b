/-
**Hexadecimal digits.**

Digits of base sixteen are written in lower case (`hexChar`) and read in either case (`hexDigit?`,
and `hexDigits?` for a whole list).

Main statement: `hexDigits?_map_hexChar` — written digits are read back.
-/

namespace Storefront.Text

/-- The lowest hexadecimal digit of a number. -/
def lowDigit (n : Nat) : Fin 16 := ⟨n % 16, Nat.mod_lt n (by decide)⟩

/-- The character of a hexadecimal digit, in lower case. -/
def hexChar (digit : Fin 16) : Char :=
  if digit.val < 10 then Char.ofNat ('0'.toNat + digit.val)
  else Char.ofNat ('a'.toNat + (digit.val - 10))

/-- The hexadecimal digit that a character of either case stands for. -/
def hexDigit? (c : Char) : Option (Fin 16) :=
  if '0' ≤ c ∧ c ≤ '9' then some (lowDigit (c.toNat - '0'.toNat))
  else if 'a' ≤ c ∧ c ≤ 'f' then some (lowDigit (c.toNat - 'a'.toNat + 10))
  else if 'A' ≤ c ∧ c ≤ 'F' then some (lowDigit (c.toNat - 'A'.toNat + 10))
  else none

theorem hexDigit?_hexChar (digit : Fin 16) : hexDigit? (hexChar digit) = some digit := by
  revert digit
  decide

/-- The digits of a list of characters, if each of them is one. -/
def hexDigits? : List Char → Option (List (Fin 16))
  | [] => some []
  | c :: rest => do
    let digit ← hexDigit? c
    let digits ← hexDigits? rest
    return digit :: digits

theorem hexDigits?_map_hexChar (digits : List (Fin 16)) :
    hexDigits? (digits.map hexChar) = some digits := by
  induction digits with
  | nil => rfl
  | cons digit rest ih => simp [hexDigits?, hexDigit?_hexChar, ih]

end Storefront.Text
