/-
**Accounts.**

An `Account` belongs to a customer and has an email address that no other account has.  It is made
from an `AccountForm`, which comes in two kinds that differ in how the gender is given:

* `NewAccount` has a gender;
* `AccountCommand` has the label of one, or none.

`Account.register` makes the account of a form, and `NewAccount.decode`, `AccountCommand.decode` and
`Account.json` say how these are written.
-/

import Storefront.Account.Gender
import Storefront.Time.Timestamp

namespace Storefront

open Storefront.Text Storefront.Json

/-- What is known about an account before it exists. -/
structure AccountForm (γ : Type) where
  email : String
  fullName : Option String := none
  dateOfBirth : Option Date := none
  location : Option String := none
  gender : γ
deriving DecidableEq

/-- An account to be made, with its gender. -/
abbrev NewAccount := AccountForm Gender

/-- The wish for an account, with the label of a gender. -/
abbrev AccountCommand := AccountForm (Option String)

/-- An account, as the store keeps it. -/
structure Account where
  id : Uuid
  email : String
  fullName : Option String
  dateOfBirth : Option Date
  location : Option String
  gender : Gender
  createdAt : Timestamp
  updatedAt : Timestamp
deriving DecidableEq

/-- The account that a form describes, with an identifier of its own, made at a moment. White space
around the email address is dropped. -/
def Account.register (input : NewAccount) (id : Uuid) (now : Timestamp) : Account where
  id := id
  email := trimmed input.email
  fullName := input.fullName
  dateOfBirth := input.dateOfBirth
  location := input.location
  gender := input.gender
  createdAt := now
  updatedAt := now

/-- The account to be made for a wish. -/
def AccountCommand.toNew (command : AccountCommand) : NewAccount where
  email := trimmed command.email
  fullName := command.fullName
  dateOfBirth := command.dateOfBirth
  location := command.location
  gender := match command.gender with
    | some label => .ofLabel label
    | none => .other

/-! ### Written forms -/

/-- How an account is written; what is not known about the customer is `null`. -/
def Account.json (account : Account) : Value :=
  .object [
    ("id", .text account.id.text),
    ("email", .text account.email),
    ("full_name", .optional .text account.fullName),
    ("date_of_birth", .optional (fun date => .text date.text) account.dateOfBirth),
    ("location", .optional .text account.location),
    ("gender", account.gender.json),
    ("created_at", .text account.createdAt.text),
    ("updated_at", .text account.updatedAt.text)]

namespace AccountForm

/-- The fields of a form that have been given. -/
structure Draft (γ : Type) where
  email : Option String := none
  fullName : Option (Option String) := none
  dateOfBirth : Option (Option Date) := none
  location : Option (Option String) := none
  gender : Option γ := none

/-- How a form is written. Only the email address is required; `absent` is the gender of a form that
does not mention it, and a list of the fields may end before it if it is `defaulted`. -/
def shape {γ : Type} (name : String) (gender : Decoder γ) (absent : γ) (defaulted : Bool) :
    Shape (Draft γ) (AccountForm γ) where
  name := name
  fields := [
    Shape.field "email" .text Draft.email fun value draft => { draft with email := some value },
    Shape.field "full_name" (.optional .text) Draft.fullName
      fun value draft => { draft with fullName := some value },
    Shape.field "date_of_birth" (.optional .date) Draft.dateOfBirth
      fun value draft => { draft with dateOfBirth := some value },
    Shape.field "location" (.optional .text) Draft.location
      fun value draft => { draft with location := some value },
    Shape.field "gender" gender Draft.gender
      (fun value draft => { draft with gender := some value }) defaulted]
  draft := {}
  finish draft := do
    let email ← Shape.required "email" draft.email
    return {
      email := email
      fullName := draft.fullName.join
      dateOfBirth := draft.dateOfBirth.join
      location := draft.location.join
      gender := draft.gender.getD absent }

end AccountForm

/-- Reads an account to be made. It has no gender, or the label of one of the three. -/
def NewAccount.decode : Decoder NewAccount :=
  (AccountForm.shape "NewAccount" Gender.decode .other true).decode

/-- Reads the wish for an account, whose gender is any text. -/
def AccountCommand.decode : Decoder AccountCommand :=
  (AccountForm.shape "CreateAccountCommand" (.optional .text) none false).decode

end Storefront
