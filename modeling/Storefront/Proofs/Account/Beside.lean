/-
**Wishes beside each other.**

However accounts are made beside each other and beside anything else, and wherever each of it is
dropped: an account that is returned has added a row with its address, and the server lets no address
in twice.  So of all who wish for one address one at most is granted it, and nobody if it is taken
already.

Main statements:

* `System.adds_of_returned`: an account that is returned has added its row;
* `System.granted_once`, `System.not_granted_of_taken`: one wish for an address is granted at most.
-/

import Mathlib.Data.List.Pairwise
import Storefront.Proofs.Account.Emails
import Storefront.Proofs.Program.Adds

namespace Storefront

open Storefront.Text

/-! ### Rows of several tables -/

namespace Tables

theorem accounts_sum (all : List Tables) : (sum all).accounts = all.flatMap accounts := by
  induction all with
  | nil => rfl
  | cons first rest ih => rw [sum, accounts_append, ih, List.flatMap_cons]

end Tables

/-- The email addresses that a statement has added. -/
def Deed.emails (deed : Deed) : List Cell := deed.added.accounts.map fun row => row.get "email"

/-! ### Accounts that are returned -/

variable [Collation]

/-- An account that is returned has added a row with its address. -/
theorem StoreCall.createAccount_keeps (input : NewAccount) (tables : Tables) :
    (createAccount (some input)).program.Keeps .anywhere
      (fun answer view => ∀ account, answer = .account (.ok account) →
        ∃ row, view.added = .only [row] .accounts ∧ row.get "email" = .text (trimmed input.email))
      { tables := tables } := by
  refine Action.keeps_program_map.mpr ?_
  refine (AccountStore.add_registers input rfl).mono (fun _ _ _ => trivial) ?_
  rintro result view ⟨id, now, kept⟩ account returned
  obtain ⟨added, _⟩ := kept.read_eq (StoreAnswer.account.inj returned)
  exact ⟨_, added, (Account.register input id now).kept_email⟩

namespace System

variable {ι : Type} [DecidableEq ι] {calls : ι → StoreCall} {tables : Tables} {size : Nat}
  {now : System ι StoreAnswer} {who other : ι} {input input' : NewAccount} {account account' : Account}

/-- The statement that has added the account is in the log. -/
theorem adds_of_returned (run : (ofCalls calls tables size).Run now)
    (wishes : calls who = .createAccount (some input))
    (returned : (now.stages who).Returned (.account (.ok account))) :
    ∃ entry ∈ now.log, entry.who = who ∧ .text (trimmed input.email) ∈ entry.emails := by
  have keeps : ∀ who (tables : Tables), (calls who).program.Keeps .anywhere
      (fun answer view => ∀ input, calls who = .createAccount (some input) →
        ∀ account, answer = .account (.ok account) →
          ∃ row, view.added = .only [row] .accounts ∧ row.get "email" = .text (trimmed input.email))
      { tables := tables } := by
    intro who tables
    cases asked : calls who with
    | createAccount input =>
      cases input with
      | none => exact fun _ => nofun
      | some input =>
        refine (StoreCall.createAccount_keeps input tables).mono (fun _ _ _ => trivial) ?_
        rintro answer view registers _ ⟨⟩ account returned
        exact registers account returned
    | _ =>
      refine (StoreCall.program_keeps _ tables).mono (fun _ _ _ => trivial) fun _ _ _ => ?_
      rintro _ ⟨⟩
  obtain ⟨view, follows⟩ := (run.sane keeps).follows who
  obtain ⟨row, added, email⟩ := follows.post_of_returned returned input wishes account rfl
  have member : row ∈ (now.addedBy who).accounts := by
    rw [← follows.added, added]
    exact List.mem_singleton_self row
  rw [addedBy, Tables.accounts_sum, List.mem_flatMap] at member
  obtain ⟨rows, inside, member⟩ := member
  obtain ⟨entry, own, rfl⟩ := List.mem_map.mp inside
  obtain ⟨logged, same⟩ := List.mem_filter.mp own
  exact ⟨entry, logged, of_decide_eq_true same, List.mem_map.mpr ⟨row, member, email⟩⟩

/-- No address is in the tables and in the log, or twice in the log. -/
theorem emails_log (unique : tables.UniqueEmails) (run : (ofCalls calls tables size).Run now) :
    (∀ row ∈ tables.accounts, ∀ entry ∈ now.log, row.get "email" ∉ entry.emails) ∧
      now.log.Pairwise fun earlier later => List.Disjoint earlier.emails later.emails := by
  have kept : now.tables.UniqueEmails := unique.grown (sane_ofCalls run).grown
  rw [Tables.UniqueEmails, Run.tables_eq run, Tables.accounts_append, Tables.accounts_sum,
    List.map_append, List.map_flatMap, List.flatMap_map, List.nodup_append] at kept
  obtain ⟨_, log, apart⟩ := kept
  refine ⟨?_, (List.nodup_flatMap.mp log).2⟩
  intro row member entry logged added
  exact apart _ (List.mem_map_of_mem member) _ (List.mem_flatMap.mpr ⟨entry, logged, added⟩) rfl

/-- **Of two wishes for one address one at most is granted.** -/
theorem granted_once (unique : tables.UniqueEmails) (run : (ofCalls calls tables size).Run now)
    (different : who ≠ other) (wishes : calls who = .createAccount (some input))
    (wishes' : calls other = .createAccount (some input'))
    (same : trimmed input.email = trimmed input'.email)
    (returned : (now.stages who).Returned (.account (.ok account))) :
    ¬ (now.stages other).Returned (.account (.ok account')) := by
  intro returned'
  obtain ⟨entry, logged, own, email⟩ := adds_of_returned run wishes returned
  obtain ⟨entry', logged', own', email'⟩ := adds_of_returned run wishes' returned'
  have entries : entry ≠ entry' := by
    rintro rfl
    exact different (own.symm.trans own')
  have symmetric : Std.Symm fun earlier later : Entry ι => List.Disjoint earlier.emails later.emails :=
    ⟨fun _ _ apart _ mine yours => apart yours mine⟩
  exact (emails_log unique run).2.forall logged logged' entries email (same ▸ email')

/-- No wish for an address that is taken is granted. -/
theorem not_granted_of_taken (unique : tables.UniqueEmails)
    (run : (ofCalls calls tables size).Run now) (wishes : calls who = .createAccount (some input))
    (taken : tables.HasEmail (trimmed input.email)) :
    ¬ (now.stages who).Returned (.account (.ok account)) := by
  intro returned
  obtain ⟨row, member, email⟩ := taken
  obtain ⟨entry, logged, _, added⟩ := adds_of_returned run wishes returned
  exact (emails_log unique run).1 row member entry logged (email ▸ added)

end System

end Storefront
