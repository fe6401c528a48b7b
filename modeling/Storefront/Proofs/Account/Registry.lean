/-
**One account for an address.**

The service trims the address of a wish, the entity trims it again, and a look trims what it is given;
the server lets no stored address in twice.  `Registry` says what that comes to in a run: no address is
given twice, whoever has one is found under it and under every text that trims to it, and a wish
conflicts with wishes for its own address only.

Main statements:

* `Machine.declines_of_taken`, `Machine.admits_of_free`: what becomes of a wish for an address that is
  taken, and for one that is free;
* `Machine.addresses_given_once`: the registry of every run.
-/

import Storefront.Proofs.Account.Beside
import Storefront.Proofs.Account.Records

namespace Storefront

open Storefront.Text

/-! ### Responses to wishes -/

namespace ErrorAnswer

/-- No error is answered as if something had been made. -/
theorem status_classify_ne (error : ServiceError) : (classify error).status ≠ 201 := by
  cases error with
  | rejected cause => simp [classify, refused]
  | failed context cause => cases cause <;> simp [classify, ofStore, refused, internal]

/-- Only a conflict is answered as one. -/
theorem status_classify_eq_conflict {error : ServiceError} :
    (classify error).status = 409 ↔ ∃ context message, error = .failed context (.conflict message) := by
  cases error with
  | rejected cause => simp [classify, refused]
  | failed context cause => cases cause <;> simp [classify, ofStore, refused, internal]

end ErrorAnswer

namespace App

variable {ending : Ending (Except ServiceError Account)}

/-- Only a wish that is granted is answered as if something had been made. -/
theorem status_eq_created :
    (conclude (ending.map (Response.ofService 201 Account.json))).status = 201 ↔
      ∃ account, ending = .finished (.ok account) := by
  constructor
  · intro status
    cases ending with
    | finished result =>
      cases result with
      | ok account => exact ⟨account, rfl⟩
      | error cause => exact absurd status (ErrorAnswer.status_classify_ne cause)
    | abandoned => cases status
    | crashed => cases status
  · rintro ⟨account, rfl⟩
    rfl

/-- Only a wish that is a conflict is answered as one. -/
theorem status_eq_conflict :
    (conclude (ending.map (Response.ofService 201 Account.json))).status = 409 ↔
      ∃ context message, ending = .finished (.error (.failed context (.conflict message))) := by
  constructor
  · intro status
    cases ending with
    | finished result =>
      cases result with
      | ok account => cases status
      | error cause =>
        obtain ⟨context, message, rfl⟩ := ErrorAnswer.status_classify_eq_conflict.mp status
        exact ⟨context, message, rfl⟩
    | abandoned => cases status
    | crashed => cases status
  · rintro ⟨context, message, rfl⟩
    rfl

end App

/-! ### Wishes for an address -/

namespace Machine

variable [Collation]

/-- Nothing keeps the service from granting or refusing a wish: it is accepted, the database can store
it, and it is answered in time. -/
structure Undisturbed (now : Machine) (environment : Environment) (outer limit : Option Duration)
    (command : AccountCommand) : Prop where
  ready : now.Ready environment
  accepted : command.check = .ok ()
  storable : command.Storable
  inTime : (AccountService.create (.inDatabase limit) command).InTime environment outer now

/-- A wish for an address that is taken: nothing is added, and undisturbed it is a conflict. -/
structure Declines (now : Machine) (command : AccountCommand) : Prop where
  tables_eq : ∀ environment outer limit,
    (now.register environment outer limit command).1.tables = now.tables
  not_granted : ∀ environment outer limit account,
    (now.register environment outer limit command).2 ≠ .finished (.ok account)
  conflict : ∀ environment outer limit, now.Undisturbed environment outer limit command →
    (now.register environment outer limit command).2 = .finished (.error (command.failure
      (.conflict (StoreError.conflictMessage "uq_accounts_email"))))

/-- A wish for an address that is free: undisturbed it is granted, and it is no conflict however long
it takes. -/
structure Admits (now : Machine) (command : AccountCommand) : Prop where
  not_conflict : ∀ environment outer limit, now.Ready environment → ∀ context message,
    (now.register environment outer limit command).2 ≠
      .finished (.error (.failed context (.conflict message)))
  granted : ∀ environment outer limit, now.Undisturbed environment outer limit command →
    (now.register environment outer limit command).2 =
      .finished (.ok (now.draft environment command).stored)

/-- A wish in a request for an address that is taken. -/
structure DeclinesPosting (now : Machine) {command : AccountCommand} (posting : Posting command) :
    Prop where
  tables_eq : ∀ environment, (posting.respond environment now).1.tables = now.tables
  not_created : ∀ environment, (posting.respond environment now).2.status ≠ 201
  conflict : ∀ environment,
    (posting.asked environment now).Undisturbed environment (some posting.app.limit) posting.limit
        command →
      (posting.respond environment now).2.status = 409

/-- A wish in a request for an address that is free. -/
structure AdmitsPosting (now : Machine) {command : AccountCommand} (posting : Posting command) :
    Prop where
  not_conflict : ∀ environment, (posting.asked environment now).Ready environment →
    (posting.respond environment now).2.status ≠ 409
  created : ∀ environment,
    (posting.asked environment now).Undisturbed environment (some posting.app.limit) posting.limit
        command →
      (posting.respond environment now).2.status = 201

variable {now : Machine} {command : AccountCommand}

theorem declines_of_taken (taken : now.tables.HasEmail (trimmed command.email)) :
    now.Declines command where
  tables_eq environment outer limit :=
    (registers environment outer limit command now).tables_of_taken taken
  not_granted environment outer limit account finished :=
    (registers environment outer limit command now).not_ok_of_taken taken
      (Ending.not_cutShort_ok finished) account finished
  conflict environment outer limit undisturbed := by
    obtain ⟨ready, accepted, storable, inTime⟩ := undisturbed
    obtain ⟨after, registers⟩ := registers_of_inTime ready accepted inTime
    rw [← ready.verdict_of_taken taken]
    exact (registers.heard ready accepted storable).resolve_right id

theorem admits_of_free (free : ¬ now.tables.HasEmail (trimmed command.email)) :
    now.Admits command where
  not_conflict environment outer limit ready context message :=
    (registers environment outer limit command now).not_conflict ready free context message
  granted environment outer limit undisturbed := by
    obtain ⟨ready, accepted, storable, inTime⟩ := undisturbed
    obtain ⟨after, registers⟩ := registers_of_inTime ready accepted inTime
    rw [← ready.verdict_of_free free]
    exact (registers.heard ready accepted storable).resolve_right id

/-- A request is declined as its wish is. -/
theorem declinesPosting_of_taken (taken : now.tables.HasEmail (trimmed command.email))
    (posting : Posting command) : now.DeclinesPosting posting := by
  have declines : ∀ environment, (posting.asked environment now).Declines command := by
    intro environment
    refine declines_of_taken ?_
    rw [posting.tables_asked]
    exact taken
  refine { tables_eq := ?_, not_created := ?_, conflict := ?_ }
  · intro environment
    rw [posting.respond_eq.1, Posting.register, (declines environment).tables_eq, posting.tables_asked]
  · intro environment created
    rw [posting.respond_eq.2.1, App.status_eq_created] at created
    obtain ⟨account, granted⟩ := created
    exact (declines environment).not_granted _ _ _ account granted
  · intro environment undisturbed
    rw [posting.respond_eq.2.1, App.status_eq_conflict]
    exact ⟨_, _, (declines environment).conflict _ _ _ undisturbed⟩

/-- A request is admitted as its wish is. -/
theorem admitsPosting_of_free (free : ¬ now.tables.HasEmail (trimmed command.email))
    (posting : Posting command) : now.AdmitsPosting posting := by
  have admits : ∀ environment, (posting.asked environment now).Admits command := by
    intro environment
    refine admits_of_free ?_
    rw [posting.tables_asked]
    exact free
  refine { not_conflict := ?_, created := ?_ }
  · intro environment ready conflict
    rw [posting.respond_eq.2.1, App.status_eq_conflict] at conflict
    obtain ⟨context, message, refused⟩ := conflict
    exact (admits environment).not_conflict _ _ _ ready context message refused
  · intro environment undisturbed
    rw [posting.respond_eq.2.1, App.status_eq_created]
    exact ⟨_, (admits environment).granted _ _ _ undisturbed⟩

end Machine

/-! ### The registry -/

/-- The accounts after some wishes: what the wishes promise about the table, and what the service makes
of it. -/
structure Registry [Collation] (history : List Registration) (now : Machine) : Prop
    extends Records history now.tables where
  /-- From now on no wish for the address of an account is granted. -/
  taken : ∀ account : Account, account.row ∈ now.tables.accounts → ∀ command : AccountCommand,
    trimmed command.email = account.email →
      now.Declines command ∧ ∀ posting : Posting command, now.DeclinesPosting posting
  /-- A wish for another address is no conflict with any of them. -/
  free : ∀ command : AccountCommand,
    (∀ account : Account, account.row ∈ now.tables.accounts → account.email ≠ trimmed command.email) →
      now.Admits command ∧ ∀ posting : Posting command, now.AdmitsPosting posting
  /-- An account is found under every text that trims to its address. -/
  found : ∀ account : Account, account.row ∈ now.tables.accounts → ∀ text,
    trimmed text = account.email → now.Finds text (.ok account)
  /-- Under any other text none is found. -/
  missing : ∀ text, isBlank text = false → '\x00' ∉ text.toList →
    (∀ account : Account, account.row ∈ now.tables.accounts → account.email ≠ trimmed text) →
      now.Finds text (.error (.failed ("failed to get account by email: " ++ trimmed text)
        (.notFound "Account" (trimmed text))))
  /-- Also of wishes beside each other one at most is granted, and none if the address is taken. -/
  beside : ∀ (ι : Type) [DecidableEq ι] (calls : ι → StoreCall) (size : Nat)
    (state : System ι StoreAnswer), (System.ofCalls calls now.tables size).Run state →
      ∀ (who : ι) (command : AccountCommand) (account : Account),
        calls who = .createAccount (some command.toNew) →
          (state.stages who).Returned (.account (.ok account)) →
            (∀ other : Account, other.row ∈ now.tables.accounts →
              other.email ≠ trimmed command.email) ∧
              ∀ (other : ι) (command' : AccountCommand) (account' : Account), who ≠ other →
                calls other = .createAccount (some command'.toNew) →
                  trimmed command.email = trimmed command'.email →
                    ¬ (state.stages other).Returned (.account (.ok account'))

namespace Records

variable {history : List Registration} {now : Machine}

/-- An address that no account has is in no row. -/
theorem not_hasEmail (records : Records history now.tables) {email : String}
    (absent : ∀ account : Account, account.row ∈ now.tables.accounts → account.email ≠ email) :
    ¬ now.tables.HasEmail email := by
  rintro ⟨row, member, same⟩
  obtain ⟨account, rfl, _⟩ := records.wished row member
  exact absent account member (Cell.text.inj same)

/-- What the wishes promise about the table makes the registry. -/
theorem registry [Collation] (records : Records history now.tables) : Registry history now where
  toRecords := records
  taken account member command same := by
    have taken : now.tables.HasEmail (trimmed command.email) := same ▸ Tables.hasEmail_of_mem member
    exact ⟨Machine.declines_of_taken taken, Machine.declinesPosting_of_taken taken⟩
  free command absent := by
    have free : ¬ now.tables.HasEmail (trimmed command.email) := records.not_hasEmail absent
    exact ⟨Machine.admits_of_free free, Machine.admitsPosting_of_free free⟩
  found account member text same := by
    obtain ⟨other, rows, reachable, _⟩ := records.wished account.row member
    obtain rfl : account = other := Account.row_injective rows
    have filled : isBlank text = false := by
      rw [← isBlank_trimmed, same]
      exact reachable.filled
    have storable : '\x00' ∉ text.toList := by
      rw [← mem_trimmed_iff (by decide), same]
      exact reachable.storable
    have seeks : now.Finds text _ := Machine.seeks filled storable
    rw [Machine.heldUnder, same, AccountStore.findOn_of_mem records.unique member] at seeks
    exact seeks
  missing text filled storable absent := by
    have seeks : now.Finds text _ := Machine.seeks filled storable
    rw [Machine.heldUnder, AccountStore.findOn_of_absent (records.not_hasEmail absent)] at seeks
    exact seeks
  beside ι _ calls size state run who command account wishes returned := by
    have email : ∀ command : AccountCommand, trimmed command.toNew.email = trimmed command.email :=
      fun command => trimmed_trimmed command.email
    refine ⟨fun other member same => ?_, fun other command' account' different wishes' same => ?_⟩
    · refine System.not_granted_of_taken records.unique run wishes ?_ returned
      rw [email, ← same]
      exact Tables.hasEmail_of_mem member
    · refine System.granted_once records.unique run different wishes wishes' ?_ returned
      rw [email, email]
      exact same

end Records

/-- **No address is given twice, and whoever has one is found.** -/
theorem Machine.addresses_given_once [Collation] {start now : Machine} {history : List Registration}
    (nothing : start.tables.accounts = []) (run : start.Registered history now) :
    Registry history now :=
  (run.records nothing).registry

/-- An address with white space around it. -/
def AccountCommand.sample : AccountCommand := ⟨" ada@example.org ", none, none, none, none⟩

/-- The same address without it, in a request. -/
def Posting.sample : Posting ⟨"ada@example.org", none, none, none, none⟩ where
  settings := {}
  limit := none
  app := ⟨⟨["http://localhost:5173"]⟩, .inDatabase none, .ofSeconds 30⟩
  built := rfl
  request := App.wish
  wishes := ⟨⟨rfl, by decide +kernel⟩, by decide +kernel⟩

/-- An account has been made, and its address has been posted again. -/
def Machine.registered : Machine :=
  (Posting.sample.respond .sample (({} : Machine).register .sample none none .sample).1).1

/-- The address is wished for once more, and looked for. -/
theorem Machine.addresses_given_once_sample :
    ∃ (history : List Registration) (account : Account),
      ({} : Machine).tables.accounts = [] ∧ Registered {} history registered ∧ history.length = 2 ∧
        account.row ∈ registered.tables.accounts ∧ Registry history registered ∧
        registered.Undisturbed .sample none none .sample ∧
        (registered.register .sample none none .sample).2 = .finished (.error
          (.failed "failed to create account: ada@example.org"
            (.conflict "Duplicate value violates unique constraint: uq_accounts_email"))) ∧
        registered.Finds "\tada@example.org\n" (.ok account) := by
  have run : Registered {} _ registered :=
    .posted (.called .start .sample none none .sample) .sample .sample
  have registry : Registry _ registered := addresses_given_once rfl run
  have granted : (({} : Machine).register .sample none none .sample).2 =
    .finished (.ok (({} : Machine).draft .sample .sample).stored) := rfl
  obtain ⟨email, member⟩ := registry.kept _ List.mem_cons_self _ granted
  have absent {α : Type} {p : α → Prop} : ∀ value ∈ (none : Option α), p value :=
    fun _ impossible => absurd impossible (Option.not_mem_none _)
  have undisturbed : registered.Undisturbed .sample none none .sample := {
    ready := ⟨Environment.healthy_smooth _ _, by decide +kernel, by decide +kernel⟩
    accepted := rfl
    storable := ⟨by decide, absent, absent, absent⟩
    inTime := ⟨absent, absent⟩ }
  have declines := (registry.taken _ member .sample rfl).1
  exact ⟨_, _, rfl, run, rfl, member, registry, undisturbed, declines.conflict _ _ _ undisturbed,
    registry.found _ member _ rfl⟩

/-- **Texts that the database cannot store are beyond the registry**: a look for one fails in the
database though no account has it, and so does a wish that has one beside an address that is taken. -/
theorem Machine.unstorable_fails :
    (({} : Machine).Ready .sample ∧ Registered {} [] {} ∧ isBlank "no\x00pe" = false ∧
      ({} : Machine).tables.accounts = [] ∧
      (({} : Machine).seek .sample none none "no\x00pe").2 = .finished (.error
        (.failed "failed to get account by email: no\x00pe" (.database (.refused .invalidText))))) ∧
    ∃ (account : Account) (now : Machine) (command : AccountCommand),
      now.Ready .sample ∧ Registered {} [⟨.sample, .finished (.ok account)⟩] now ∧
        trimmed command.email = account.email ∧ command.check = .ok () ∧
        (now.register .sample none none command).2 = .finished (.error
          (.failed "failed to create account: ada@example.org" (.database (.refused .invalidText)))) := by
  have run : Registered {} _ _ := .called .start .sample none none .sample
  refine ⟨⟨⟨Environment.healthy_smooth _ _, rfl, nofun⟩, .start, by decide, rfl, ?_⟩, ?_⟩
  · decide +kernel
  exact ⟨_, _, ⟨"ada@example.org", some "Ada\x00", none, none, none⟩,
    ⟨Environment.healthy_smooth _ _, rfl, by decide +kernel⟩, run, rfl, rfl, by decide +kernel⟩

end Storefront
