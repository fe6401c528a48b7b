/-
**Email addresses in the tables.**

Beside accounts with other identifiers, an account is let into the table exactly if none has its email
address; and under an address the table holds the account that has it, or none.

Main statements:

* `Tables.checkRows_of_taken`, `Tables.checkRows_of_free`: what the server says to an account;
* `AccountStore.findOn_of_mem`, `AccountStore.findOn_of_absent`: what is found under an address.
-/

import Mathlib.Data.List.Nodup
import Storefront.Account.Service
import Storefront.Proofs.Store.Entities
import Storefront.Proofs.Text.Layout

namespace Storefront

open Storefront.Text

/-- A text that is required is not blank. -/
theorem Rejection.filled_of_requireText {field text : String} {done : Unit}
    (passed : requireText field text = .ok done) : isBlank text = false := by
  unfold requireText at passed
  split at passed
  · cases passed
  · next visible => exact eq_false_of_ne_true visible

/-! ### Addresses in a table -/

/-- An account is known by its row. -/
theorem Account.row_injective {first second : Account} (same : first.row = second.row) :
    first = second := by
  have read := congrArg Account.ofRow same
  rw [Account.ofRow_row, Account.ofRow_row] at read
  exact Except.ok.inj read

namespace Tables

/-- Has an account this email address? -/
def HasEmail (tables : Tables) (email : String) : Prop :=
  ∃ row ∈ tables.accounts, row.get "email" = .text email

/-- No email address occurs twice. -/
def UniqueEmails (tables : Tables) : Prop :=
  (tables.accounts.map fun account => account.get "email").Nodup

theorem UniqueEmails.grown {earlier later : Tables} (unique : earlier.UniqueEmails)
    (grown : earlier.Grown later) : later.UniqueEmails := by
  induction grown with
  | refl => exact unique
  | tail _ step ih =>
    obtain ⟨rows, addition, rfl⟩ := step
    exact nodup_emails_add ih addition

theorem hasEmail_of_mem {tables : Tables} {account : Account} (member : account.row ∈ tables.accounts) :
    tables.HasEmail account.email := ⟨account.row, member, rfl⟩

/-! ### Accounts that are let in -/

section Checks

variable {tables : Tables} {account : Account}

theorem violatedBound?_account (account : Account) :
    Table.accounts.violatedBound? account.kept = none := by
  have gender : account.kept.get "gender" = .integer account.gender.code := rfl
  unfold Table.violatedBound?
  rw [gender]
  dsimp only
  cases account.gender <;> rfl

/-- Beside accounts with other identifiers an account clashes with the one that has its address. -/
theorem violatedKey?_account (fresh : ∀ row ∈ tables.accounts, row.get "id" ≠ .uuid account.id) :
    (tables.HasEmail account.email →
      Table.accounts.violatedKey? tables.accounts account.kept = some "uq_accounts_email") ∧
    (¬ tables.HasEmail account.email →
      Table.accounts.violatedKey? tables.accounts account.kept = none) := by
  have ids : tables.accounts.any (sameIn ["id"] account.kept) = false := by
    rw [List.any_eq_false]
    intro row member clash
    rw [sameIn, List.all_cons, Bool.and_eq_true, Bool.and_eq_true] at clash
    exact fresh row member (beq_iff_eq.mp clash.1.2).symm
  have emails : tables.accounts.any (sameIn ["email"] account.kept) = true ↔
      tables.HasEmail account.email := by
    rw [List.any_eq_true]
    refine exists_congr fun row => and_congr_right fun _ => ?_
    rw [sameIn, List.all_cons, List.all_nil, Bool.and_true, Account.kept_email]
    exact beq_iff_eq.trans eq_comm
  have found : ∀ clashes : Bool, tables.accounts.any (sameIn ["email"] account.kept) = clashes →
      Table.accounts.violatedKey? tables.accounts account.kept =
        if clashes then some "uq_accounts_email" else none := by
    rintro clashes rfl
    unfold Table.violatedKey? Table.uniqueKeys
    rw [List.find?_cons_of_neg (by rw [ids]; exact Bool.false_ne_true), List.find?_cons]
    cases tables.accounts.any (sameIn ["email"] account.kept) <;> rfl
  constructor
  · exact fun taken => found true (emails.mpr taken)
  · exact fun free => found false (eq_false_of_ne_true fun clash => free (emails.mp clash))

/-- The server refuses an account with the address of another one. -/
theorem checkRows_of_taken (fresh : ∀ row ∈ tables.accounts, row.get "id" ≠ .uuid account.id)
    (taken : tables.HasEmail account.email) :
    checkRows tables .accounts [account.kept] = .error (.duplicate "uq_accounts_email") := by
  unfold checkRows Table.checkEach Table.checkRow
  rw [violatedBound?_account]
  dsimp only
  rw [show tables.rows .accounts = tables.accounts from rfl, (violatedKey?_account fresh).1 taken]
  rfl

/-- It lets in an account with an address of its own. -/
theorem checkRows_of_free (fresh : ∀ row ∈ tables.accounts, row.get "id" ≠ .uuid account.id)
    (free : ¬ tables.HasEmail account.email) :
    checkRows tables .accounts [account.kept] = .ok () := by
  refine checkRows_eq_ok_iff.mpr ⟨?_, ?_⟩
  · refine Table.checkEach_cons_iff.mpr ⟨?_, rfl⟩
    exact Table.checkRow_eq_ok_iff.mpr ⟨violatedBound?_account account, (violatedKey?_account fresh).2 free⟩
  · intro row member
    exact Table.dangling?_eq_none_iff.mpr nofun

/-- An account that is let in has an address of its own, whatever its identifier. -/
theorem not_hasEmail_of_checkRows (fits : checkRows tables .accounts [account.kept] = .ok ()) :
    ¬ tables.HasEmail account.email := by
  rintro ⟨row, member, same⟩
  have head := (Table.checkEach_cons_iff.mp (checkRows_eq_ok_iff.mp fits).1).1
  have unique : ("uq_accounts_email", ["email"]) ∈ Table.accounts.uniqueKeys :=
    List.mem_cons_of_mem _ (List.mem_singleton_self _)
  have clash := Table.violatedKey?_eq_none_iff.mp (Table.checkRow_eq_ok_iff.mp head).2 _ unique row member
  rw [sameIn, List.all_cons, List.all_nil, Bool.and_true, Account.kept_email, same] at clash
  exact absurd clash (by simp [Cell.isNull])

end Checks

end Tables

/-! ### Accounts that are found -/

section Looks

variable [Collation] {tables : Tables} {key : String}

/-- The account with an address is found under it. -/
theorem AccountStore.findOn_of_mem {account : Account} (unique : tables.UniqueEmails)
    (member : account.row ∈ tables.accounts) :
    findOn "email" (.text account.email) key tables = .ok account := by
  have found : Statement.rowsOn ⟨.select .accounts (.equals "email" 1) [] none, [.text account.email]⟩
      tables = [account.row] := rowsOn_of_nodup unique member rfl rfl
  rw [findOn, Operation.lookUpOn, found]
  dsimp only
  rw [Account.ofRow_row]
  rfl

/-- Under an address that no account has, none is found. -/
theorem AccountStore.findOn_of_absent {email : String} (absent : ¬ tables.HasEmail email) :
    findOn "email" (.text email) key tables = .error (.notFound "Account" key) := by
  have nothing : ((tables.rows .accounts).filter fun row => row.get "email" == .text email) = [] := by
    rw [List.filter_eq_nil_iff]
    exact fun row member same => absent ⟨row, member, beq_iff_eq.mp same⟩
  have found : Statement.rowsOn ⟨.select .accounts (.equals "email" 1) [] none, [.text email]⟩
      tables = [] := by
    rw [rowsOn_equals rfl, nothing]
    exact List.mergeSort_nil
  rw [findOn, Operation.lookUpOn, found]

end Looks

end Storefront
