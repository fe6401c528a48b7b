/-
**Runs in which accounts are made.**

Wishes for accounts come to the service one after another, from callers or in requests, and anything
else is done between them.  Nothing else touches the table of accounts, so what becomes of each wish
says all that there is to know of it: `Records` is what the past wishes promise about the table.

Main statements:

* `Posting.respond_eq`: a response says what has become of a wish in a request;
* `Machine.Elsewhere.accounts_eq`: nothing else touches the accounts;
* `Machine.Registered.keeps`: what every wish keeps holds after a run;
* `Records.wish`, `Machine.Registered.records`: one wish keeps the promise, and so does a run.
-/

import Storefront.Proofs.Account.Wishes
import Storefront.Proofs.Http.Frame

namespace Storefront

open Storefront.Text

/-! ### Wishes in requests -/

/-- The request posts a wish for an account that can be read. -/
structure Request.Wishes (request : Request) (command : AccountCommand) : Prop where
  posts : request.Posts "/api/v1/account"
  reads : Extract.body AccountCommand.decode request = .ok command

/-- A wish for an account in a request to a server on the database. -/
structure Posting (command : AccountCommand) where
  settings : ServerSettings
  limit : Option Duration
  app : App
  built : App.build? settings limit = some app
  request : Request
  wishes : request.Wishes command

section Requests

variable {limit : Option Duration} {environment : Environment} {request : Request}
  {command : AccountCommand} {machine : Machine}

theorem Handler.dispatch_wishes (wishes : request.Wishes command) :
    dispatch (.inDatabase limit) request =
      Response.ofService 201 Account.json <$> AccountService.create (.inDatabase limit) command := by
  obtain ⟨⟨method, path⟩, reads⟩ := wishes
  unfold dispatch
  rw [path, method]
  change withPart (Extract.body AccountCommand.decode request) _ = _
  rw [reads]
  rfl

/-- A wish that cannot be read is answered at once. -/
theorem Handler.dispatch_unreadable {response : Response} (posts : request.Posts "/api/v1/account")
    (unread : Extract.body AccountCommand.decode request = .error response) :
    dispatch (.inDatabase limit) request = .answered response := by
  unfold dispatch
  rw [posts.2, posts.1]
  change withPart (Extract.body AccountCommand.decode request) _ = _
  rw [unread]
  rfl

namespace Posting

/-- The machine on which the service is asked, after the request has got its identifier. -/
def asked (posting : Posting command) (environment : Environment) (machine : Machine) : Machine :=
  (App.requestId environment posting.request machine).1

/-- What becomes of the wish. -/
def register [Collation] (posting : Posting command) (environment : Environment) (machine : Machine) :
    Machine × Ending (Except ServiceError Account) :=
  (posting.asked environment machine).register environment (some posting.app.limit) posting.limit command

/-- What becomes of the request. -/
def respond [Collation] (posting : Posting command) (environment : Environment) (machine : Machine) :
    Machine × Response :=
  posting.app.respond environment posting.request machine

theorem tables_asked (posting : Posting command) :
    (posting.asked environment machine).tables = machine.tables := App.tables_requestId

/-- The response says what has become of the wish. -/
theorem respond_eq [Collation] (posting : Posting command) :
    (posting.respond environment machine).1 = (posting.register environment machine).1 ∧
      (posting.respond environment machine).2.status =
        (App.conclude ((posting.register environment machine).2.map
          (Response.ofService 201 Account.json))).status ∧
      (posting.respond environment machine).2.body =
        (App.conclude ((posting.register environment machine).2.map
          (Response.ofService 201 Account.json))).body := by
  have attended : posting.app.attend environment posting.request machine =
      ((posting.register environment machine).1,
        (posting.register environment machine).2.map (Response.ofService 201 Account.json)) := by
    rw [App.attend, App.services_of_build? posting.built, Handler.dispatch_wishes posting.wishes]
    exact Machine.perform_map _ _ _ _
  have method : posting.request.method ≠ "OPTIONS" := by
    rw [posting.wishes.posts.1]
    decide
  have response : (posting.respond environment machine).1 =
    (posting.app.attend environment posting.request machine).1 ∧ _ := App.respond_eq method
  rw [attended] at response
  exact response

end Posting

end Requests

/-! ### Anything else -/

/-- Only what makes an account adds one. -/
theorem StoreCall.not_writes_accounts {call : StoreCall}
    (other : ∀ input, call ≠ .createAccount input) : ¬ call.Writes .accounts := by
  cases call with
  | createAccount input => exact absurd rfl (other input)
  | createItem input => exact Table.noConfusion
  | createOrder input => rintro (impossible | impossible) <;> cases impossible
  | _ => exact id

/-- Only where accounts are made may a request add one. -/
theorem Request.MayAdd.accounts_eq_nil {request : Request} {rows : Tables} (may : request.MayAdd rows)
    (other : ¬ request.Posts "/api/v1/account") : rows.accounts = [] := by
  by_cases orders : request.Posts "/api/v1/order"
  · exact (may.order orders).1
  · rw [may.elsewhere other orders]
    rfl

/-- Anything but a wish for an account: a call that makes none, a request without a wish, or the
database becomes reachable or unreachable. -/
inductive Machine.Elsewhere [Collation] (before : Machine) : Machine → Prop
  | call (environment : Environment) (outer limit : Option Duration) {call : StoreCall}
      (other : ∀ input, call ≠ .createAccount input) :
      Elsewhere before (before.perform environment outer (call.action limit)).1
  | request {settings : ServerSettings} {limit : Option Duration} {app : App}
      (environment : Environment) (built : App.build? settings limit = some app) {request : Request}
      (other : ∀ command, ¬ request.Wishes command) :
      Elsewhere before (app.respond environment request before).1
  | pool (state : PoolState) : Elsewhere before { before with pool := state }

/-- A request that posts no readable wish leaves the accounts alone. -/
theorem App.accounts_respond [Collation] {app : App} {limit : Option Duration} {request : Request}
    (services : app.services = .inDatabase limit) (other : ∀ command, ¬ request.Wishes command)
    (environment : Environment) (before : Machine) :
    (app.respond environment request before).1.tables.accounts = before.tables.accounts := by
  by_cases posts : request.Posts "/api/v1/account"
  · cases reads : Extract.body AccountCommand.decode request with
    | ok command => exact absurd ⟨posts, reads⟩ (other command)
    | error response =>
      have options : request.method ≠ "OPTIONS" := by
        rw [posts.1]
        decide
      rw [(respond_eq options).1, attend, services, Handler.dispatch_unreadable posts reads]
      exact congrArg Tables.accounts tables_requestId
  · obtain ⟨rows, may, added⟩ := (Serves.responds environment before.pool).adds services
    have added : (app.respond environment request before).1.tables = before.tables ++ rows := added
    rw [added, Tables.accounts_append, may.accounts_eq_nil posts, List.append_nil]

/-- Nothing else touches the accounts. -/
theorem Machine.Elsewhere.accounts_eq [Collation] {before after : Machine}
    (elsewhere : before.Elsewhere after) :
    after.tables.accounts = before.tables.accounts := by
  cases elsewhere with
  | @call environment outer limit call other =>
    have adds := call.program_adds
    rw [← StoreCall.program_action limit] at adds
    obtain ⟨rows, may, added⟩ : ∃ rows, call.MayAdd rows ∧
        (before.perform environment outer (call.action limit)).1.tables = _ :=
      perform_adds adds ⟨Tables.within_empty, Or.inl rfl⟩ before
    have accountless : rows.accounts = [] := may.1 .accounts (StoreCall.not_writes_accounts other)
    rw [added, Tables.accounts_append, accountless, List.append_nil]
  | request environment built other =>
    exact App.accounts_respond (App.services_of_build? built) other environment before
  | pool state => rfl

/-! ### What the wishes promise -/

/-- A wish for an account, and what has become of it. -/
structure Registration where
  command : AccountCommand
  ending : Ending (Except ServiceError Account)

/-- The wish has been granted. -/
def Registration.Granted (wish : Registration) : Prop :=
  ∃ account, wish.ending = .finished (.ok account)

/-- The account has been made for the wish, whether that was heard or not. -/
structure Registration.Makes (wish : Registration) (account : Account) : Prop where
  email : account.email = trimmed wish.command.email
  heard : wish.ending = .finished (.ok account) ∨ wish.ending.CutShort

/-- The account can be looked up under its address. -/
structure Account.Reachable (account : Account) : Prop where
  filled : isBlank account.email = false
  storable : '\x00' ∉ account.email.toList

/-- What the wishes so far promise about the table of accounts. -/
structure Records (history : List Registration) (tables : Tables) : Prop where
  unique : tables.UniqueEmails
  /-- Every account has been wished for. -/
  wished : ∀ row ∈ tables.accounts, ∃ account : Account,
    row = account.row ∧ account.Reachable ∧ ∃ wish ∈ history, wish.Makes account
  /-- Every account that has been returned is there. -/
  kept : ∀ wish ∈ history, ∀ account, wish.ending = .finished (.ok account) →
    account.email = trimmed wish.command.email ∧ account.row ∈ tables.accounts
  /-- No two wishes for one address have been granted. -/
  once : history.Pairwise fun earlier later =>
    trimmed earlier.command.email = trimmed later.command.email → ¬ (earlier.Granted ∧ later.Granted)

namespace Records

variable {history : List Registration} {tables : Tables} {environment : Environment} {before : Machine}
  {command : AccountCommand} {ending : Ending (Except ServiceError Account)}

/-- Before the first wish there are no accounts. -/
theorem nil (nothing : tables.accounts = []) : Records [] tables where
  unique := by
    rw [Tables.UniqueEmails, nothing]
    exact List.nodup_nil
  wished row member := by
    rw [nothing] at member
    cases member
  kept wish member := absurd member List.not_mem_nil
  once := List.Pairwise.nil

/-- The promise is about the accounts only. -/
theorem of_accounts {later : Tables} (records : Records history tables)
    (same : later.accounts = tables.accounts) : Records history later where
  unique := by
    rw [Tables.UniqueEmails, same]
    exact records.unique
  wished := same ▸ records.wished
  kept := same ▸ records.kept
  once := records.once

/-- The address of a wish that has been granted is taken. -/
theorem hasEmail_of_granted (records : Records history tables) {wish : Registration}
    (member : wish ∈ history) (granted : wish.Granted) :
    tables.HasEmail (trimmed wish.command.email) := by
  obtain ⟨account, returned⟩ := granted
  obtain ⟨same, stored⟩ := records.kept wish member account returned
  exact same ▸ Tables.hasEmail_of_mem stored

/-- A wish leaves addresses in the table unique. -/
theorem unique_wish (records : Records history before.tables)
    (registers : before.Registers environment command Ending.CutShort tables ending) :
    tables.UniqueEmails := by
  cases registers with
  | created accepted storable fits heard =>
    exact Tables.nodup_emails_add records.unique (.account _ (Account.tidy_register _ _ _) fits)
  | _ => exact records.unique

/-- The account that a wish adds has been wished for. -/
theorem wished_wish (records : Records history before.tables)
    (registers : before.Registers environment command Ending.CutShort tables ending) :
    ∀ row ∈ tables.accounts, ∃ account : Account,
      row = account.row ∧ account.Reachable ∧
        ∃ wish ∈ history ++ [⟨command, ending⟩], wish.Makes account := by
  have earlier : ∀ row ∈ before.tables.accounts, ∃ account : Account,
      row = account.row ∧ account.Reachable ∧
        ∃ wish ∈ history ++ [⟨command, ending⟩], wish.Makes account := by
    intro row member
    obtain ⟨account, same, reachable, wish, past, makes⟩ := records.wished row member
    exact ⟨account, same, reachable, wish, List.mem_append_left _ past, makes⟩
  cases registers with
  | created accepted storable fits heard =>
    intro row member
    obtain past | added := List.mem_append.mp member
    · exact earlier row past
    · obtain rfl := List.mem_singleton.mp added
      have email : (before.draft environment command).stored.email = trimmed command.email :=
        before.draft_email environment command
      refine ⟨_, Account.kept_eq _, ⟨?_, ?_⟩, _, List.mem_append_right _ (List.mem_singleton_self _),
        email, heard⟩
      · rw [email, isBlank_trimmed]
        exact AccountCommand.filled_of_check accepted
      · rw [email, mem_trimmed_iff (by decide)]
        exact storable.email
  | _ => exact earlier

/-- **One wish keeps the promise.** -/
theorem wish (records : Records history before.tables)
    (registers : before.Registers environment command Ending.CutShort tables ending) :
    Records (history ++ [⟨command, ending⟩]) tables where
  unique := records.unique_wish registers
  wished := records.wished_wish registers
  kept wish member account returned := by
    obtain past | last := List.mem_append.mp member
    · obtain ⟨email, stored⟩ := records.kept wish past account returned
      exact ⟨email, registers.mem_of_mem stored⟩
    · obtain rfl := List.mem_singleton.mp last
      obtain ⟨rfl, _, _, same⟩ := registers.created_of_ok returned (Ending.not_cutShort_ok returned)
      refine ⟨before.draft_email environment command, ?_⟩
      rw [same]
      exact List.mem_append_right _ (List.mem_singleton_self _)
  once := by
    refine List.pairwise_append.mpr ⟨records.once, List.pairwise_singleton _ _, ?_⟩
    intro earlier past last member same
    obtain rfl := List.mem_singleton.mp member
    rintro ⟨granted, account, returned⟩
    have taken : before.tables.HasEmail (trimmed command.email) :=
      same ▸ records.hasEmail_of_granted past granted
    exact registers.not_ok_of_taken taken (Ending.not_cutShort_ok returned) account returned

end Records

/-! ### Runs -/

/-- Accounts are made by wishes only, to the service or in requests, and anything else is done between
them. -/
inductive Machine.Registered [Collation] (start : Machine) : List Registration → Machine → Prop
  | start : Registered start [] start
  | called {history : List Registration} {before : Machine} (run : Registered start history before)
      (environment : Environment) (outer limit : Option Duration) (command : AccountCommand) :
      Registered start (history ++ [⟨command, (before.register environment outer limit command).2⟩])
        (before.register environment outer limit command).1
  | posted {history : List Registration} {before : Machine} {command : AccountCommand}
      (run : Registered start history before) (environment : Environment) (posting : Posting command) :
      Registered start (history ++ [⟨command, (posting.register environment before).2⟩])
        (posting.respond environment before).1
  | elsewhere {history : List Registration} {before after : Machine}
      (run : Registered start history before) (other : before.Elsewhere after) :
      Registered start history after

/-- What every wish keeps, and what is about the accounts only, holds after a run. -/
theorem Machine.Registered.keeps [Collation] {P : List Registration → Tables → Prop}
    {start last : Machine} {history : List Registration} (nothing : P [] start.tables)
    (wish : ∀ {history} {before : Machine} {environment command tables ending},
      P history before.tables → before.Registers environment command Ending.CutShort tables ending →
        P (history ++ [⟨command, ending⟩]) tables)
    (same : ∀ {history} {earlier later : Tables}, P history earlier →
      later.accounts = earlier.accounts → P history later)
    (run : start.Registered history last) : P history last.tables := by
  induction run with
  | start => exact nothing
  | called _ environment outer limit command ih =>
    exact wish ih (registers environment outer limit command _)
  | @posted _ before command _ environment posting ih =>
    rw [posting.respond_eq.1]
    have unchanged : (posting.asked environment before).tables = before.tables := posting.tables_asked
    exact wish (unchanged ▸ ih)
      (registers environment (some posting.app.limit) posting.limit command _)
  | elsewhere _ other ih => exact same ih other.accounts_eq

/-- **A run keeps the promise.** -/
theorem Machine.Registered.records [Collation] {start last : Machine} {history : List Registration}
    (nothing : start.tables.accounts = []) (run : start.Registered history last) :
    Records history last.tables :=
  run.keeps (Records.nil nothing) Records.wish Records.of_accounts

end Storefront
