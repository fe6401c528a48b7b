/-
**Accounts that are written down.**

An account is shown as JSON with all of its fields.  The text can be used as the wish for an account: of
its members a wish has five, and the identifier and the moments are passed over.  What is made of the
wish is what the account was made of, the white space around its address aside.  In particular the date,
in any year, and the label of the gender are read as they are written.

Main statements:

* `Account.decode_json`: what an account shows, decoded as a wish;
* `accounts_read_back`: the same for the text that it shows.
-/

import Storefront.Account.Basic
import Storefront.Proofs.Json.Written
import Storefront.Proofs.Text.Layout
import Storefront.Proofs.Time.Reading

namespace Storefront

open Storefront.Json Storefront.Text

/-- A date is a text, and is read from it as it is written. -/
theorem Json.Decoder.date_text (date : Date) : Decoder.date (.text (some date.text)) = .ok date := by
  rw [Decoder.date, Date.text, String.toList_ofList, Date.read_chars]
  rfl

namespace Account

/-- The wish that an account shows. -/
def wish (account : Account) : AccountCommand where
  email := account.email
  fullName := account.fullName
  dateOfBirth := account.dateOfBirth
  location := account.location
  gender := some account.gender.label

theorem exact_json (account : Account) : account.json.Exact :=
  ⟨trivial, trivial, Value.exact_optional fun _ _ => trivial, Value.exact_optional fun _ _ => trivial,
    Value.exact_optional fun _ _ => trivial, trivial, trivial, trivial, trivial⟩

/-- What an account shows decodes as the wish that it shows. -/
theorem decode_json (account : Account) :
    AccountCommand.decode account.json.outline = .ok account.wish := by
  have text : ∀ value, Decoder.text (.text (some value)) = .ok value := fun _ => rfl
  have texts : ∀ value : Option String,
      Decoder.optional .text (Value.optional .text value).outline = .ok value :=
    fun _ => Decoder.optional_outline (fun _ _ => nofun) fun given _ => text given
  have gender : ∀ label, Decoder.optional .text (.text (some label)) = .ok (some label) := fun _ => rfl
  have date : Decoder.optional .date
      (Value.optional (fun date => .text date.text) account.dateOfBirth).outline =
        .ok account.dateOfBirth :=
    Decoder.optional_outline (fun _ _ => nofun) fun date _ => Decoder.date_text date
  have written : account.json.outline =
      .object (.next (.text (some "id")) (.text (some account.id.text))
        (.next (.text (some "email")) (.text (some account.email))
        (.next (.text (some "full_name")) (Value.optional .text account.fullName).outline
        (.next (.text (some "date_of_birth"))
          (Value.optional (fun date => .text date.text) account.dateOfBirth).outline
        (.next (.text (some "location")) (Value.optional .text account.location).outline
        (.next (.text (some "gender")) (.text (some account.gender.label))
        (.next (.text (some "created_at")) (.text (some account.createdAt.text))
        (.next (.text (some "updated_at")) (.text (some account.updatedAt.text)) .closed)))))))) := rfl
  have filled : (AccountForm.shape "CreateAccountCommand" (.optional .text) none false).fill
      account.json.outline = .ok ⟨some account.email, some account.fullName, some account.dateOfBirth,
        some account.location, some (some account.gender.label)⟩ := by
    rw [written]
    simp [Shape.fill, AccountForm.shape, Shape.fillMembers, Shape.field, text, texts, gender, date,
      Except.map, Outline.wellFormed]
  rw [AccountCommand.decode, Shape.decode, filled]
  rfl

end Account

/-- **An account is read back as what it was made of.** The text that an account shows is read as the wish
for an account with the same address, name, date of birth, location and gender. -/
theorem accounts_read_back (input : NewAccount) (id : Uuid) (now : Timestamp) :
    ∃ command,
      read AccountCommand.decode (Symbol.ofText (Account.register input id now).json.render) = .ok command ∧
      command.toNew = {
        email := (Account.register input id now).email
        fullName := (Account.register input id now).fullName
        dateOfBirth := (Account.register input id now).dateOfBirth
        location := (Account.register input id now).location
        gender := (Account.register input id now).gender } := by
  refine ⟨(Account.register input id now).wish, ?read, ?made⟩
  case read =>
    rw [Value.render, Symbol.ofText, String.toList_ofList, read_chars (Account.exact_json _)]
    exact Account.decode_json _
  case made =>
    have address : trimmed (trimmed input.email) = trimmed input.email := trimmed_trimmed _
    have gender : Gender.ofLabel input.gender.label = input.gender := Gender.ofLabel_label _
    simp [Account.wish, Account.register, AccountCommand.toNew, address, gender]

end Storefront
