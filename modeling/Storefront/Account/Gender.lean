/-
**Genders.**

A gender is kept as a small number and shown as a label.  Labels are read in any case with white space
around them, and every unknown label counts as `other`.

Main statements:

* `ofLabel_label`: a label is read back as its gender;
* `ofCode?_eq_some_iff`: exactly the numbers of the genders are read back.
-/

import Storefront.Json.Decode
import Storefront.Json.Value

namespace Storefront

open Storefront.Text

/-- The gender of a customer. -/
inductive Gender
  | male
  | female
  | other
deriving DecidableEq, Repr

namespace Gender

instance : Inhabited Gender := ⟨other⟩

/-- The name by which a gender is written. -/
def label : Gender → String
  | male => "Male"
  | female => "Female"
  | other => "Other"

/-- The number under which a gender is stored. -/
def code : Gender → Int
  | male => 0
  | female => 1
  | other => 2

/-- The gender that a number in a row stands for, if it stands for one. -/
def ofCode? (code : Int) : Option Gender :=
  if code = 0 then some male
  else if code = 1 then some female
  else if code = 2 then some other
  else none

/-- The gender with a label; unknown labels count as `other`. -/
def ofLabel (label : String) : Gender :=
  let word := (trim label.toList).map Char.toLower
  if word = "male".toList then male
  else if word = "female".toList then female
  else other

/-- The genders by their labels, in the order in which a message lists them. -/
def labels : List (String × Gender) := [male, female, other].map fun gender => (gender.label, gender)

/-- Reads the label of a gender, letter for letter. -/
def decode : Json.Decoder Gender := .variant labels

/-- A gender is written as its label. -/
def json (gender : Gender) : Json.Value := .text gender.label

theorem ofLabel_label (gender : Gender) : ofLabel gender.label = gender := by
  cases gender <;> decide +kernel

/-- Exactly the numbers of the genders are read back. -/
theorem ofCode?_eq_some_iff {code : Int} {gender : Gender} :
    ofCode? code = some gender ↔ code = gender.code := by
  unfold ofCode?
  split
  · next h => subst h; cases gender <;> simp [Gender.code]
  · split
    · next h => subst h; cases gender <;> simp [Gender.code]
    · split
      · next h => subst h; cases gender <;> simp [Gender.code]
      · cases gender <;> simp [Gender.code] <;> omega

end Gender

end Storefront
