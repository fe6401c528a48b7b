/-
**Variables.**

Settings come from named texts.  A setting that is a text takes the variable as it is; one that is a
number takes it without the white space around it.  An absent variable, and a number that cannot be
read, leave the default.
-/

import Storefront.Text.Integer
import Storefront.Text.Space

namespace Storefront

open Storefront.Text

/-- The texts of the variables that are set. -/
abbrev Variables := String → Option String

namespace Variables

/-- The variables of a list of names and texts. -/
def ofList (entries : List (String × String)) : Variables := fun name => entries.lookup name

/-- A setting that is a text. -/
def text (vars : Variables) (name default : String) : String := (vars name).getD default

/-- The number of so many bits, without a sign, that a text spells. -/
def readNumber? (bits : Nat) (raw : String) : Option Nat :=
  match readInteger (.unsigned bits) (trim raw.toList) with
  | .ok n => some n.toNat
  | .error _ => none

/-- A setting that is a number of so many bits. -/
def number (vars : Variables) (name : String) (bits default : Nat) : Nat :=
  ((vars name).bind (readNumber? bits)).getD default

end Variables

end Storefront
