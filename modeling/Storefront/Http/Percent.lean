/-
**Percent-encoding.**

In a target a byte may be written as a percent sign and two hexadecimal digits.  A percent sign that is not
followed by two of them stands for itself.

Main statement: `decode_of_absent` — without a percent sign nothing changes.
-/

import Storefront.Text.Hexadecimal
import Storefront.Text.Utf8

namespace Storefront.Percent

open Storefront.Text

/-- The percent sign. -/
def sign : UInt8 := 0x25

/-- The hexadecimal digit that a byte is. -/
def digit? (byte : UInt8) : Option (Fin 16) := hexDigit? (Char.ofNat byte.toNat)

/-- The byte that two hexadecimal digits spell. -/
def pair? (high low : UInt8) : Option UInt8 := do
  let high ← digit? high
  let low ← digit? low
  return UInt8.ofNat (high.val * 16 + low.val)

/-- The bytes that are meant. -/
def decode : List UInt8 → List UInt8
  | [] => []
  | [byte] => [byte]
  | [first, second] => [first, second]
  | first :: high :: low :: rest =>
    if first = sign then
      match pair? high low with
      | some byte => byte :: decode rest
      | none => first :: decode (high :: low :: rest)
    else first :: decode (high :: low :: rest)

/-- The symbols that a part of a target means. -/
def symbols (cs : List Char) : List Symbol :=
  Utf8.symbols (decode (Utf8.bytes (String.ofList cs)))

/-- Without a percent sign nothing changes. -/
theorem decode_of_absent {bytes : List UInt8} (absent : sign ∉ bytes) : decode bytes = bytes := by
  fun_induction decode bytes with
  | case1 => rfl
  | case2 => rfl
  | case3 => rfl
  | case4 => simp_all
  | case5 => simp_all
  | case6 first high low rest other ih =>
    rw [ih fun member => absent (List.mem_cons_of_mem _ member)]

end Storefront.Percent
