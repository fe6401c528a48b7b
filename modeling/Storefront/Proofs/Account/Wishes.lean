/-
**What becomes of a wish for an account.**

At the service a wish comes to one statement that adds a row, and a look for the account with an address
to one statement that finds it.  So a wish is rejected, or it adds the row of the account that it
describes, or it adds nothing and the answer says why; and a look finds what the table holds.

Main statements:

* `AccountCommand.refused?_insertion`: which accounts the database can store;
* `Machine.registers`: what can become of a wish;
* `Machine.Registers.heard`: on a database that nothing disturbs the answer is the server's verdict;
* `Machine.Registers.not_conflict`: which is no conflict unless the address is taken;
* `Machine.seeks`: what can become of a look.
-/

import Storefront.Proofs.Account.Emails
import Storefront.Proofs.Program.Single

namespace Storefront

open Storefront.Text

/-! ### Calls of the service -/

namespace Machine

variable [Collation]

/-- The service is asked to make an account. -/
def register (environment : Environment) (outer limit : Option Duration) (command : AccountCommand)
    (machine : Machine) : Machine × Ending (Except ServiceError Account) :=
  machine.perform environment outer (AccountService.create (.inDatabase limit) command)

/-- The service is asked for the account with an email address. -/
def seek (environment : Environment) (outer limit : Option Duration) (text : String)
    (machine : Machine) : Machine × Ending (Except ServiceError Account) :=
  machine.perform environment outer (AccountService.byEmail (.inDatabase limit) text)

/-- The account that a wish describes on a machine. -/
def draft (environment : Environment) (command : AccountCommand) (machine : Machine) : Account :=
  .register command.toNew (environment.id machine.ids) (.ofClock (environment.clock machine.readings))

/-- The row of an account is added. -/
def insertion (environment : Environment) (command : AccountCommand) (machine : Machine) : Statement :=
  .insert .accounts [(machine.draft environment command).cells] true

/-- Nothing goes wrong by itself: the database can be reached, it answers every statement, and the next
identifier is no account's. -/
structure Ready (machine : Machine) (environment : Environment) : Prop where
  healthy : environment.Healthy
  available : machine.pool = .open
  fresh : ∀ row ∈ machine.tables.accounts, row.get "id" ≠ .uuid (environment.id machine.ids)

end Machine

/-- Has the work been cut off by a limit before its answer was heard? -/
def Ending.CutShort (ending : Ending (Except ServiceError Account)) : Prop :=
  ending = .abandoned ∨ ∃ context limit, ending = .finished (.error (.failed context (.timeout limit)))

theorem Ending.Cut.map {ending : Ending (Except StoreError Account)} (cut : ending.Cut)
    (context : String) : (ending.map (ServiceError.consult context)).CutShort := by
  obtain rfl | ⟨limit, rfl⟩ := cut
  · exact Or.inl rfl
  · exact Or.inr ⟨context, limit, rfl⟩

theorem Ending.not_cutShort_ok {ending : Ending (Except ServiceError Account)} {account : Account}
    (returned : ending = .finished (.ok account)) : ¬ ending.CutShort := by
  subst returned
  rintro (impossible | ⟨context, limit, impossible⟩)
  · cases impossible
  · cases impossible

/-- A wish that is accepted has an address. -/
theorem AccountCommand.filled_of_check {command : AccountCommand} (accepted : command.check = .ok ()) :
    isBlank command.email = false := by
  unfold check at accepted
  cases text : Rejection.requireText "email" command.email with
  | ok present => exact Rejection.filled_of_requireText text
  | error cause => rw [text] at accepted; cases accepted

/-! ### Values that the database can store -/

/-- The database can store the texts and the date. -/
structure AccountCommand.Storable (command : AccountCommand) : Prop where
  email : '\x00' ∉ command.email.toList
  fullName : ∀ name ∈ command.fullName, '\x00' ∉ name.toList
  dateOfBirth : ∀ date ∈ command.dateOfBirth,
    Calendar.daysFromEpoch (-4713) 11 24 ≤ date.daysFromEpoch
  location : ∀ place ∈ command.location, '\x00' ∉ place.toList

namespace Cell

theorem refused?_text {value : String} : (text value).refused? = none ↔ '\x00' ∉ value.toList := by
  have decides : (text value).refused? =
      if value.toList.contains '\x00' then some .invalidText else none := rfl
  rw [decides, ← List.contains_iff_mem]
  cases value.toList.contains '\x00' <;> simp

theorem refused?_date {value : Date} :
    (date value).refused? = none ↔ Calendar.daysFromEpoch (-4713) 11 24 ≤ value.daysFromEpoch := by
  have decides : (date value).refused? =
      if value.daysFromEpoch < Calendar.daysFromEpoch (-4713) 11 24 then some .dateOutOfRange
      else none := rfl
  rw [decides, ite_eq_right_iff, ← Int.not_lt]
  exact ⟨fun never early => Option.some_ne_none _ (never early), fun late early => absurd early late⟩

theorem refused?_optional {α : Type} {cell : α → Cell} {value : Option α} :
    (optional cell value).refused? = none ↔ ∀ given ∈ value, (cell given).refused? = none := by
  cases value with
  | none => exact ⟨fun _ => nofun, fun _ => rfl⟩
  | some given => exact ⟨fun accepted _ same => Option.some.inj same ▸ accepted, fun all => all given rfl⟩

end Cell

variable {environment : Environment} {command : AccountCommand} {machine : Machine}

theorem Machine.draft_email (machine : Machine) (environment : Environment) (command : AccountCommand) :
    (machine.draft environment command).email = trimmed command.email :=
  trimmed_trimmed command.email

/-- The database accepts the account that a wish describes exactly if it can store its texts and its
date. -/
theorem AccountCommand.refused?_insertion :
    (machine.insertion environment command).refused? = none ↔ command.Storable := by
  have values : (machine.insertion environment command).values =
      (machine.draft environment command).cells := List.append_nil _
  have email : (Cell.text (machine.draft environment command).email).refused? = none ↔
      '\x00' ∉ command.email.toList := by
    rw [Cell.refused?_text, Machine.draft_email, mem_trimmed_iff (by decide)]
  have cells : (∀ cell ∈ (machine.draft environment command).cells, cell.refused? = none) ↔
      '\x00' ∉ command.email.toList ∧ (Cell.optional .text command.fullName).refused? = none ∧
        (Cell.optional .date command.dateOfBirth).refused? = none ∧
        (Cell.optional .text command.location).refused? = none := by
    rw [← email]
    unfold Account.cells
    simp only [List.forall_mem_cons]
    exact ⟨fun ⟨_, email, name, birth, place, _⟩ => ⟨email, name, birth, place⟩,
      fun ⟨email, name, birth, place⟩ => ⟨rfl, email, name, birth, place, rfl, rfl, rfl,
        List.forall_mem_nil _⟩⟩
  rw [Statement.refused?, List.findSome?_eq_none_iff, values, cells, Cell.refused?_optional,
    Cell.refused?_optional, Cell.refused?_optional]
  simp only [Cell.refused?_text, Cell.refused?_date]
  exact ⟨fun ⟨email, name, birth, place⟩ => ⟨email, name, birth, place⟩,
    fun storable => ⟨storable.email, storable.fullName, storable.dateOfBirth, storable.location⟩⟩

/-! ### Making an account -/

/-- The answer to a wish that the store fails at. -/
def AccountCommand.failure (command : AccountCommand) (cause : StoreError) : ServiceError :=
  .failed ("failed to create account: " ++ trimmed command.email) cause

/-- What can become of a wish: the tables afterwards, and its ending.  `cut` says what the ending is like
if the answer of the store is not heard. -/
inductive Machine.Registers (environment : Environment) (before : Machine) (command : AccountCommand)
    (cut : Ending (Except ServiceError Account) → Prop) :
    Tables → Ending (Except ServiceError Account) → Prop
  | rejected {cause : Rejection} (rejected : command.check = .error cause) :
      Registers environment before command cut before.tables (.finished (.error (.rejected cause)))
  | created {ending : Ending (Except ServiceError Account)} (accepted : command.check = .ok ())
      (storable : command.Storable)
      (fits : checkRows before.tables .accounts [(before.draft environment command).kept] = .ok ())
      (heard : ending = .finished (.ok (before.draft environment command).stored) ∨ cut ending) :
      Registers environment before command cut
        (before.tables ++ .only [(before.draft environment command).kept] .accounts) ending
  | forbidden {ending : Ending (Except ServiceError Account)} {report : Report}
      (storable : command.Storable)
      (forbids : checkRows before.tables .accounts [(before.draft environment command).kept] =
        .error report)
      (heard : ending = .finished (.error (command.failure (.ofDriver (.refused report)))) ∨ cut ending) :
      Registers environment before command cut before.tables ending
  | refused {ending : Ending (Except ServiceError Account)} {report : Report}
      (refused : (before.insertion environment command).refused? = some report)
      (heard : ending = .finished (.error (command.failure (.ofDriver (.refused report)))) ∨ cut ending) :
      Registers environment before command cut before.tables ending
  | unsent {ending : Ending (Except ServiceError Account)} (unheard : cut ending) :
      Registers environment before command cut before.tables ending
  /-- Something has gone wrong. -/
  | disturbed {ending : Ending (Except ServiceError Account)}
      (ill : environment.Healthy → before.pool ≠ .open)
      (fails : ending = .crashed ∨
        ∃ cause, ending = .finished (.error (command.failure (.ofDriver cause)))) :
      Registers environment before command cut before.tables ending

/-- The account is read back from its row. -/
theorem Account.taken_kept {missing : StoreError} (account : Account) :
    Operation.taken missing ofRow (.ok [account.kept]) = .ok account.stored := by
  rw [Operation.taken, kept_eq, ofRow_row]
  rfl

namespace Machine

/-- What becomes of the statement becomes of the wish. -/
theorem registers_of_single [Collation] {heard : Ending (Except StoreError Account) → Prop}
    {cut : Ending (Except ServiceError Account) → Prop} {tables : Tables}
    {ending : Ending (Except StoreError Account)} {answer : Ending (Except ServiceError Account)}
    (accepted : command.check = .ok ())
    (single : machine.Single environment (machine.insertion environment command)
      (Operation.taken (.ofDriver .rowNotFound) Account.ofRow) heard tables ending)
    (same : ending.map (ServiceError.consult
      ("failed to create account: " ++ command.toNew.email)) = answer)
    (implies : heard ending → cut answer) :
    machine.Registers environment command cut tables answer := by
  subst same
  cases single with
  | carriedOut fine heard =>
    have storable := AccountCommand.refused?_insertion.mp fine
    cases checked : checkRows machine.tables .accounts [(machine.draft environment command).kept] with
    | error report =>
      have carried : execute machine.tables none (machine.insertion environment command) =
        .refuse report machine.tables none := execute_insert_error rfl checked
      rw [carried] at heard ⊢
      refine .forbidden storable checked (heard.imp (fun finished => ?_) implies)
      rw [finished]
      rfl
    | ok done =>
      have carried : execute machine.tables none (machine.insertion environment command) =
          .added .accounts [(machine.draft environment command).kept]
            [(machine.draft environment command).kept] machine.tables none :=
        execute_insert_ok rfl checked
      rw [carried] at heard ⊢
      refine .created accepted storable checked (heard.imp (fun finished => ?_) implies)
      rw [finished]
      exact congrArg (fun result => Ending.finished (ServiceError.consult _ result))
        (machine.draft environment command).taken_kept
  | refused refused heard =>
    refine .refused refused (heard.imp (fun finished => ?_) implies)
    rw [finished]
    rfl
  | unsent unheard => exact .unsent (implies unheard)
  | disturbed ill fails =>
    refine .disturbed ill (fails.imp (fun crashed => ?_) ?_)
    · rw [crashed]
      rfl
    · rintro ⟨cause, rfl⟩
      exact ⟨cause, rfl⟩

/-- Making an account comes to one statement. -/
theorem comes_insertion [Collation] (bound : Option Duration) :
    Session.run environment bound (AccountStore.add command.toNew).run ⟨machine, none, 0⟩ =
      Session.run environment bound (Operation.single (machine.insertion environment command)
        (.ofDriver .rowNotFound) Account.ofRow).run
          ⟨{ machine with readings := machine.readings + 1, ids := machine.ids + 1 }, none, 0⟩ := rfl

variable {outer limit : Option Duration}

theorem create_of_check (accepted : command.check = .ok ()) :
    AccountService.create (.inDatabase limit) command =
      ServiceError.consult ("failed to create account: " ++ command.toNew.email) <$>
        (AccountStore.add command.toNew).within limit := by
  unfold AccountService.create
  rw [accepted]
  rfl

/-- **Nothing else becomes of a wish.** -/
theorem registers [Collation] (environment : Environment) (outer limit : Option Duration)
    (command : AccountCommand) (machine : Machine) :
    machine.Registers environment command Ending.CutShort
      (machine.register environment outer limit command).1.tables
      (machine.register environment outer limit command).2 := by
  unfold register
  cases accepted : command.check with
  | error cause =>
    rw [AccountService.create_rejected accepted]
    exact .rejected accepted
  | ok done =>
    rw [create_of_check accepted, perform_map]
    exact registers_of_single accepted (perform_single comes_insertion rfl rfl outer limit) rfl
      fun cut => cut.map _

/-- In time its answer is heard. -/
theorem registers_of_inTime [Collation] (ready : machine.Ready environment)
    (accepted : command.check = .ok ())
    (inTime : (AccountService.create (.inDatabase limit) command).InTime environment outer machine) :
    ∃ after, machine.Registers environment command (fun _ => False) after
      (machine.register environment outer limit command).2 := by
  unfold register
  rw [create_of_check accepted] at inTime ⊢
  rw [perform_map]
  obtain ⟨after, single⟩ := perform_single_of_inTime comes_insertion rfl rfl ready.healthy
    ready.available (Action.inTime_of_map inTime)
  exact ⟨after, registers_of_single accepted single rfl id⟩

end Machine

/-! ### What the answer is -/

/-- Values that the database cannot store are no conflict. -/
theorem StoreError.ofDriver_ne_conflict {statement : Statement} {report : Report}
    (refused : statement.refused? = some report) (message : String) :
    ofDriver (.refused report) ≠ .conflict message := by
  obtain ⟨cell, _, told⟩ := List.exists_of_findSome?_eq_some refused
  unfold Cell.refused? at told
  split at told
  · split at told
    · cases told
      exact fun same => StoreError.noConfusion same
    · cases told
  · split at told
    · cases told
      exact fun same => StoreError.noConfusion same
    · cases told
  · cases told

namespace Machine

/-- What the server says to a wish. -/
def verdict (environment : Environment) (command : AccountCommand) (machine : Machine) :
    Except ServiceError Account :=
  match checkRows machine.tables .accounts [(machine.draft environment command).kept] with
  | .ok () => .ok (machine.draft environment command).stored
  | .error report => .error (command.failure (.ofDriver (.refused report)))

/-- The address of an account is not given again. -/
theorem Ready.checkRows_of_taken (ready : machine.Ready environment)
    (taken : machine.tables.HasEmail (trimmed command.email)) :
    checkRows machine.tables .accounts [(machine.draft environment command).kept] =
      .error (.duplicate "uq_accounts_email") := by
  refine Tables.checkRows_of_taken ready.fresh ?_
  rw [draft_email]
  exact taken

/-- An address that no account has is given. -/
theorem Ready.checkRows_of_free (ready : machine.Ready environment)
    (free : ¬ machine.tables.HasEmail (trimmed command.email)) :
    checkRows machine.tables .accounts [(machine.draft environment command).kept] = .ok () := by
  refine Tables.checkRows_of_free ready.fresh ?_
  rw [draft_email]
  exact free

theorem Ready.verdict_of_taken (ready : machine.Ready environment)
    (taken : machine.tables.HasEmail (trimmed command.email)) :
    machine.verdict environment command = .error (command.failure
      (.conflict (StoreError.conflictMessage "uq_accounts_email"))) := by
  rw [verdict, ready.checkRows_of_taken taken]
  rfl

theorem Ready.verdict_of_free (ready : machine.Ready environment)
    (free : ¬ machine.tables.HasEmail (trimmed command.email)) :
    machine.verdict environment command = .ok (machine.draft environment command).stored := by
  rw [verdict, ready.checkRows_of_free free]

end Machine

namespace Machine.Registers

variable {before : Machine} {cut : Ending (Except ServiceError Account) → Prop} {tables : Tables}
  {ending : Ending (Except ServiceError Account)}

/-- An address that an account has is not given to another one. -/
theorem tables_of_taken (registers : before.Registers environment command cut tables ending)
    (taken : before.tables.HasEmail (trimmed command.email)) : tables = before.tables := by
  cases registers with
  | created accepted storable fits heard =>
    rw [← draft_email] at taken
    exact absurd taken (Tables.not_hasEmail_of_checkRows fits)
  | _ => rfl

/-- An account that is returned is the one that the wish describes, and its row has been added. -/
theorem created_of_ok (registers : before.Registers environment command cut tables ending)
    {account : Account} (finished : ending = .finished (.ok account)) (heard : ¬ cut ending) :
    account = (before.draft environment command).stored ∧ command.check = .ok () ∧ command.Storable ∧
      tables = before.tables ++ .only [account.row] .accounts := by
  subst finished
  cases registers with
  | created accepted storable fits told =>
    obtain same | unheard := told
    · obtain rfl : account = _ := Except.ok.inj (Ending.finished.inj same)
      exact ⟨rfl, accepted, storable, by rw [Account.kept_eq]⟩
    · exact absurd unheard heard
  | forbidden storable forbids told =>
    obtain same | unheard := told
    · cases same
    · exact absurd unheard heard
  | refused refused told =>
    obtain same | unheard := told
    · cases same
    · exact absurd unheard heard
  | unsent unheard => exact absurd unheard heard
  | disturbed ill fails =>
    obtain crashed | ⟨cause, failed⟩ := fails
    · cases crashed
    · cases failed

/-- So no account is returned for it. -/
theorem not_ok_of_taken (registers : before.Registers environment command cut tables ending)
    (taken : before.tables.HasEmail (trimmed command.email)) (heard : ¬ cut ending) (account : Account) :
    ending ≠ .finished (.ok account) := by
  intro finished
  obtain ⟨_, _, _, added⟩ := registers.created_of_ok finished heard
  have same := congrArg Tables.accounts (added.symm.trans (registers.tables_of_taken taken))
  exact absurd (List.append_right_eq_self.mp same) (List.cons_ne_nil _ _)

/-- The rows that are there stay there. -/
theorem mem_of_mem (registers : before.Registers environment command cut tables ending) {row : Row}
    (member : row ∈ before.tables.accounts) : row ∈ tables.accounts := by
  cases registers with
  | created accepted storable fits heard => exact List.mem_append_left _ member
  | _ => exact member

/-- The answer to a wish that nothing keeps from the server is its verdict, if it is heard. -/
theorem heard (registers : before.Registers environment command cut tables ending)
    (ready : before.Ready environment) (accepted : command.check = .ok ())
    (storable : command.Storable) :
    ending = .finished (before.verdict environment command) ∨ cut ending := by
  unfold verdict
  cases registers with
  | rejected rejected => rw [accepted] at rejected; cases rejected
  | created _ _ fits heard => rw [fits]; exact heard
  | forbidden _ forbids heard => rw [forbids]; exact heard
  | refused refused _ =>
    rw [AccountCommand.refused?_insertion.mpr storable] at refused
    cases refused
  | unsent unheard => exact Or.inr unheard
  | disturbed ill _ => exact absurd ready.available (ill ready.healthy)

/-- Undisturbed, a wish with an address that no account has is no conflict, whatever it is and however
long it takes. -/
theorem not_conflict (registers : before.Registers environment command Ending.CutShort tables ending)
    (ready : before.Ready environment) (free : ¬ before.tables.HasEmail (trimmed command.email))
    (context message : String) : ending ≠ .finished (.error (.failed context (.conflict message))) := by
  have uncut : ∀ {ending : Ending (Except ServiceError Account)}, ending.CutShort →
      ending ≠ .finished (.error (.failed context (.conflict message))) := by
    rintro _ (rfl | ⟨other, limit, rfl⟩) same
    · cases same
    · cases same
  cases registers with
  | rejected rejected => exact fun same => by cases same
  | created _ _ _ heard =>
    obtain rfl | unheard := heard
    · exact fun same => by cases same
    · exact uncut unheard
  | forbidden _ forbids heard =>
    rw [ready.checkRows_of_free free] at forbids
    cases forbids
  | refused refused heard =>
    obtain rfl | unheard := heard
    · intro same
      obtain ⟨_, same⟩ := ServiceError.failed.inj (Except.error.inj (Ending.finished.inj same))
      exact StoreError.ofDriver_ne_conflict refused message same
    · exact uncut unheard
  | unsent unheard => exact uncut unheard
  | disturbed ill _ => exact absurd ready.available (ill ready.healthy)

end Machine.Registers

/-! ### Looking an account up -/

/-- Is the answer of the service an account, or that there is none? -/
def Sought (answer : Except ServiceError Account) : Prop :=
  ∃ context result, answer = ServiceError.consult context result ∧ Settled result

theorem settled_of_sought {context : String} {result : Except StoreError Account}
    (sought : Sought (ServiceError.consult context result)) : Settled result := by
  obtain ⟨other, given, same, settled⟩ := sought
  cases result with
  | ok account => trivial
  | error cause =>
    cases given with
    | ok account => cases same
    | error given =>
      obtain ⟨_, rfl⟩ := ServiceError.failed.inj (Except.error.inj same)
      exact settled

namespace Machine

/-- This is what the service finds under a text. -/
structure Finds [Collation] (machine : Machine) (text : String)
    (found : Except ServiceError Account) : Prop where
  /-- Whatever goes wrong, every answer that is not a failure is that. -/
  only : ∀ environment outer limit answer,
    (machine.seek environment outer limit text).2 = .finished answer →
      Sought answer → answer = found
  /-- Undisturbed and in time, that is the answer. -/
  found : ∀ (environment : Environment) outer limit, environment.Healthy → machine.pool = .open →
    (AccountService.byEmail (.inDatabase limit) text).InTime environment outer machine →
      (machine.seek environment outer limit text).2 = .finished found

/-- The rows with an email address. -/
def selection (text : String) : Statement :=
  ⟨.select .accounts (.equals "email" 1) [] none, [.text (trimmed text)]⟩

/-- What the tables hold under a text. -/
def heldUnder [Collation] (text : String) (machine : Machine) : Except StoreError Account :=
  AccountStore.findOn "email" (.text (trimmed text)) (trimmed text) machine.tables

variable {outer limit : Option Duration} {text : String}

theorem byEmail_of_filled (filled : isBlank text = false) :
    AccountService.byEmail (.inDatabase limit) text =
      ServiceError.consult ("failed to get account by email: " ++ trimmed text) <$>
        (AccountStore.find "email" (.text (trimmed text)) (trimmed text)).within limit := by
  unfold AccountService.byEmail Rejection.requireText
  rw [filled]
  rfl

/-- The answer to the selection is what the tables hold. -/
theorem taken_selection [Collation] :
    Operation.taken (.notFound "Account" (trimmed text)) Account.ofRow
        ((execute machine.tables none (selection text)).answer.mapError .refused) =
      machine.heldUnder text := by
  have answered : execute machine.tables none (selection text) =
    .found ((selection text).rowsOn machine.tables) machine.tables none := execute_of_looks rfl rfl
  rw [answered, heldUnder, AccountStore.findOn, Operation.lookUpOn, ← selection]
  cases (selection text).rowsOn machine.tables <;> rfl

/-- Looking an account up comes to the selection. -/
theorem comes_selection [Collation] (text : String) (machine : Machine) (bound : Option Duration) :
    Session.run environment bound (AccountStore.find "email" (.text (trimmed text)) (trimmed text)).run
        ⟨machine, none, 0⟩ =
      Session.run environment bound (Operation.single (selection text)
        (.notFound "Account" (trimmed text)) Account.ofRow).run ⟨machine, none, 0⟩ := rfl

/-- The database accepts the selection. -/
theorem refused?_selection (storable : '\x00' ∉ text.toList) : (selection text).refused? = none := by
  refine List.findSome?_eq_none_iff.mpr fun cell member => ?_
  obtain rfl : cell = .text (trimmed text) := List.mem_singleton.mp member
  rw [Cell.refused?_text, mem_trimmed_iff (by decide)]
  exact storable

/-- What becomes of the selection is what the tables hold, or a failure. -/
theorem Single.held [Collation] {cut : Ending (Except StoreError Account) → Prop} {tables : Tables}
    {ending : Ending (Except StoreError Account)} (storable : '\x00' ∉ text.toList)
    (single : machine.Single environment (selection text)
      (Operation.taken (.notFound "Account" (trimmed text)) Account.ofRow) cut tables ending) :
    ending = .finished (machine.heldUnder text) ∨ cut ending ∨
      (environment.Healthy → machine.pool ≠ .open) ∧
        (ending = .crashed ∨ ∃ cause, ending = .finished (.error (.ofDriver cause))) := by
  cases single with
  | carriedOut accepted heard =>
    rw [taken_selection] at heard
    exact heard.imp_right Or.inl
  | refused refused _ =>
    rw [refused?_selection storable] at refused
    cases refused
  | unsent unheard => exact Or.inr (Or.inl unheard)
  | disturbed ill fails => exact Or.inr (Or.inr ⟨ill, fails⟩)

/-- Under a text the service finds what the tables hold under its trimming. -/
theorem seeks [Collation] (filled : isBlank text = false) (storable : '\x00' ∉ text.toList) :
    machine.Finds text (ServiceError.consult ("failed to get account by email: " ++ trimmed text)
      (machine.heldUnder text)) where
  only environment outer limit answer finished sought := by
    unfold seek at finished
    rw [byEmail_of_filled filled, perform_map] at finished
    obtain ⟨result, ended, rfl⟩ := Ending.map_eq_finished_iff.mp finished
    have single : machine.Single environment _ _ Ending.Cut _ _ :=
      perform_single (comes_selection text machine) rfl rfl outer limit
    rw [ended] at single
    have settled := settled_of_sought sought
    obtain held | (cut | ⟨limit, late⟩) | ⟨_, crashed | ⟨cause, failed⟩⟩ := single.held storable
    · rw [Ending.finished.inj held]
    · cases cut
    · cases late
      cases settled
    · cases crashed
    · cases failed
      exact absurd settled (not_settled_ofDriver cause)
  found environment outer limit healthy available inTime := by
    unfold seek
    rw [byEmail_of_filled filled] at inTime ⊢
    rw [perform_map]
    obtain ⟨after, single⟩ := perform_single_of_inTime (comes_selection text machine) rfl rfl healthy
      available (Action.inTime_of_map inTime)
    obtain held | cut | ⟨ill, _⟩ := single.held storable
    · rw [held]
      rfl
    · cases cut
    · exact absurd available (ill healthy)

end Machine

end Storefront
