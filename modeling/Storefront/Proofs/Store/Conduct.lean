/-
**How the stores conduct themselves.**

Every operation of the stores is walked through once: where its calls are made, which statements it sends,
and that its first failure ends it (`Operation.Conducted`).  The statements that a call can send are listed
(`StoreCall.Asks`).  An error of the database is sorted by `StoreError.ofDriver`; while an order is made
it is kept as the cause for which the transaction failed (`StoreCall.failure`).

Main statements:

* `StoreCall.action_conducted`: every call is conducted;
* `StoreCall.program_asks`, `StoreCall.program_failsAs`, `StoreCall.program_tidy`,
  `StoreCall.frugal_program`: so it sends its own statements only, its first failure decides the answer, it
  minds its transactions, and it waits for nothing that it may not wait for.
-/

import Storefront.Proofs.Program.Conduct
import Storefront.Proofs.Store.Calls

namespace Storefront

open Operation

variable {allowed : Statement → Prop}

/-! ### Accounts and items -/

/-- One statement about one row. -/
theorem Operation.conducted_row {α : Type} {query : Query} {values : List Cell} {missing : StoreError}
    {read : Row → Except DriverError α} (permitted : allowed ⟨query, values⟩)
    (plain : query.opened? false = some false)
    (unread : ∀ rows cause, query.unread? rows = some cause →
      (firstRow .ofDriver missing read rows).run = .done (.error (.ofDriver cause)))
    (arises : missing.Arises .ofDriver) :
    (do
      connect .ofDriver
      let rows ← send .ofDriver query values
      firstRow .ofDriver missing read rows : Operation α).Conducted allowed .ofDriver {}
        { connected := true } :=
  conducted_bind conducted_connect fun _ =>
    conducted_send permitted plain unread (conducted_firstRow arises read)

theorem AccountStore.find_conducted {column : String} {value : Cell} {key : String}
    (look : allowed ⟨.select .accounts (.equals column 1) [] none, [value]⟩) :
    (find column value key).Conducted allowed .ofDriver {} { connected := true } :=
  conducted_row look rfl (fun _ _ => run_firstRow_of_failed) (.missing _ _)

theorem AccountStore.add_conducted {input : NewAccount}
    (batch : ∀ id now, allowed (.insert .accounts [(Account.register input id now).cells] true)) :
    (add input).Conducted allowed .ofDriver {} { connected := true } :=
  conducted_bind conducted_readClock fun now => conducted_bind conducted_freshId fun id =>
    conducted_row (batch id now) rfl (fun _ _ => run_firstRow_of_lost) (.failed _)

theorem ItemStore.find_conducted {id : Uuid}
    (look : allowed ⟨.select .items (.equals "id" 1) [] none, [.uuid id]⟩) :
    (find id).Conducted allowed .ofDriver {} { connected := true } :=
  conducted_row look rfl (fun _ _ => run_firstRow_of_failed) (.missing _ _)

theorem ItemStore.add_conducted {input : NewItem}
    (batch : ∀ id now, allowed (.insert .items [(Item.register input id now).cells] true)) :
    (add input).Conducted allowed .ofDriver {} { connected := true } :=
  conducted_bind conducted_readClock fun now => conducted_bind conducted_freshId fun id =>
    conducted_row (batch id now) rfl (fun _ _ => run_firstRow_of_lost) (.failed _)

theorem ItemStore.list_conducted {request : PageRequest} {terms : List OrderTerm}
    (begin : allowed ⟨.begin, []⟩) (snapshot : allowed ⟨.snapshot, []⟩)
    (count : allowed ⟨.count .items .all, []⟩)
    (window : allowed ⟨.select .items .all terms (some ⟨1, 2⟩), request.windowCells⟩)
    (commit : allowed ⟨.commit, []⟩) :
    (list request terms).Conducted allowed .ofDriver {} { connected := true } := by
  refine conducted_bind (conducted_beginSnapshot begin snapshot) fun _ => ?_
  refine conducted_send count rfl
    (fun _ _ failed => run_bind_of_failed (run_known_of_failed failed)) fun counted => ?_
  refine conducted_bind (conducted_known _) fun total => ?_
  refine conducted_send window rfl
    (fun _ _ failed => run_bind_of_failed (run_known_of_failed failed)) fun rows => ?_
  refine conducted_bind (conducted_known _) fun items => ?_
  exact conducted_bind (conducted_commit commit) fun _ => conducted_pure _

/-! ### Orders -/

namespace OrderStore

/-- Lines are looked up in a transaction or without one. -/
theorem withLines_conducted {orders : List Order} {turn opened : Bool}
    (look : ∀ ids, allowed ⟨linesQuery, [.uuids ids]⟩) :
    (withLines orders).Conducted allowed .ofDriver ⟨turn, true, opened⟩ ⟨turn, true, opened⟩ := by
  unfold withLines
  split
  · exact conducted_pure _
  · refine conducted_send (look _) rfl
      (fun _ _ failed => run_bind_of_failed (run_known_of_failed failed)) fun rows => ?_
    exact conducted_bind (conducted_known _) fun lines => conducted_pure _

theorem find_conducted {id : Uuid}
    (look : allowed ⟨.select .orders (.equals "id" 1) [] none, [.uuid id]⟩)
    (lines : ∀ ids, allowed ⟨linesQuery, [.uuids ids]⟩) :
    (find id).Conducted allowed .ofDriver {} { connected := true } := by
  refine conducted_bind conducted_connect fun _ => conducted_send look rfl
    (fun _ _ failed => run_bind_of_failed (run_firstRow_of_failed failed)) fun rows => ?_
  refine conducted_bind (conducted_firstRow (.missing _ _) _ rows) fun order => ?_
  exact conducted_bind (withLines_conducted lines) fun _ => conducted_pure _

theorem list_conducted {accountId : Uuid} {request : PageRequest} {terms : List OrderTerm}
    (begin : allowed ⟨.begin, []⟩) (snapshot : allowed ⟨.snapshot, []⟩)
    (count : allowed ⟨.count .orders (.equals "account_id" 1), [.uuid accountId]⟩)
    (window : allowed ⟨.select .orders (.equals "account_id" 1) terms (some ⟨2, 3⟩),
      .uuid accountId :: request.windowCells⟩)
    (lines : ∀ ids, allowed ⟨linesQuery, [.uuids ids]⟩) (commit : allowed ⟨.commit, []⟩) :
    (list accountId request terms).Conducted allowed .ofDriver {} { connected := true } := by
  refine conducted_bind (conducted_beginSnapshot begin snapshot) fun _ => ?_
  refine conducted_send count rfl
    (fun _ _ failed => run_bind_of_failed (run_known_of_failed failed)) fun counted => ?_
  refine conducted_bind (conducted_known _) fun total => ?_
  split
  · exact conducted_bind (conducted_commit commit) fun _ => conducted_pure _
  · refine conducted_send window rfl
      (fun _ _ failed => run_bind_of_failed (run_known_of_failed failed)) fun rows => ?_
    refine conducted_bind (conducted_known _) fun orders => ?_
    refine conducted_bind (withLines_conducted lines) fun completed => ?_
    exact conducted_bind (conducted_commit commit) fun _ => conducted_pure _

/-- Lines are made, as many as are wished for, whatever is held. -/
theorem makeLines_conducted {fail : DriverError → StoreError} {standing : Standing} {orderId : Uuid}
    {wishes : List (NewLine × Int)} {β : Type} {next : List OrderLine → Operation β} {after : Standing}
    (rest : ∀ lines, lines.length = wishes.length → (next lines).Conducted allowed fail standing after) :
    (makeLines orderId wishes >>= next).Conducted allowed fail standing after := by
  induction wishes generalizing next with
  | nil => exact rest [] rfl
  | cons wish others ih =>
    obtain ⟨line, position⟩ := wish
    unfold makeLines
    rw [bind_assoc]
    refine conducted_bind conducted_readClock fun now => ?_
    rw [bind_assoc]
    refine conducted_bind conducted_freshId fun id => ?_
    rw [bind_assoc]
    refine ih fun lines same => ?_
    rw [pure_bind]
    exact rest _ (congrArg (· + 1) same)

theorem addLines_conducted {lines : List OrderLine} {turn : Bool}
    (batch : allowed (.insert .orderItems (lines.map OrderLine.cells) false)) :
    (addLines lines).Conducted allowed .transaction ⟨turn, true, true⟩ ⟨turn, true, true⟩ := by
  unfold addLines
  split
  · exact conducted_pure _
  · exact conducted_send_unread batch rfl (fun _ => rfl) fun _ => conducted_pure _

/-- The turn is taken first, and the connection after it. -/
theorem add_conducted {input : NewOrder} (begin : allowed ⟨.begin, []⟩)
    (look : allowed ⟨.exists .accounts (.equals "id" 1), [.uuid input.accountId]⟩)
    (header : ∀ order : Order, allowed (.insert .orders [order.cells] false))
    (batch : ∀ lines : List OrderLine, lines.length = (Order.numberLines input).length →
      allowed (.insert .orderItems (lines.map OrderLine.cells) false))
    (commit : allowed ⟨.commit, []⟩) (rollback : allowed ⟨.rollback, []⟩) :
    (add input).Conducted allowed .transaction {} ⟨true, true, false⟩ := by
  refine conducted_bind conducted_takeTurn fun _ => conducted_bind conducted_readClock fun now => ?_
  refine conducted_bind conducted_freshId fun id => conducted_bind conducted_connect fun _ => ?_
  refine conducted_send_unread begin rfl (fun _ => rfl) fun _ => ?_
  refine conducted_send look rfl
    (fun _ _ failed => run_bind_of_failed (run_known_of_failed failed)) fun found => ?_
  refine conducted_bind (conducted_known _) fun known => ?_
  split
  · refine conducted_send_unread (header _) rfl (fun _ => rfl) fun _ => ?_
    refine makeLines_conducted fun lines same => ?_
    refine conducted_bind (addLines_conducted (batch lines same)) fun _ => ?_
    exact conducted_bind (conducted_commit commit) fun _ => conducted_pure _
  · exact conducted_send_unread rollback rfl (fun _ => rfl) fun _ => conducted_throw (.missing _ _)

end OrderStore

/-! ### Calls -/

namespace StoreCall

/-- The statements that a call can send. -/
inductive Asks : StoreCall → Statement → Prop
  | accountById (id : Uuid) :
      Asks (.accountById id) ⟨.select .accounts (.equals "id" 1) [] none, [.uuid id]⟩
  | accountByEmail (email : String) :
      Asks (.accountByEmail email) ⟨.select .accounts (.equals "email" 1) [] none, [.text email]⟩
  | newAccount {input : NewAccount} (id : Uuid) (now : Timestamp) :
      Asks (.createAccount (some input))
        (.insert .accounts [(Account.register input id now).cells] true)
  | itemById (id : Uuid) :
      Asks (.itemById id) ⟨.select .items (.equals "id" 1) [] none, [.uuid id]⟩
  | itemBegin (request : PageRequest) : Asks (.itemPage request) ⟨.begin, []⟩
  | itemSnapshot (request : PageRequest) : Asks (.itemPage request) ⟨.snapshot, []⟩
  | itemCount (request : PageRequest) : Asks (.itemPage request) ⟨.count .items .all, []⟩
  | itemWindow {request : PageRequest} {sort : SortOrder}
      (passes : request.sort.check ItemStore.sortable = .ok sort) :
      Asks (.itemPage request) ⟨.select .items .all sort.terms (some ⟨1, 2⟩), request.windowCells⟩
  | itemCommit (request : PageRequest) : Asks (.itemPage request) ⟨.commit, []⟩
  | newItem {input : NewItem} (id : Uuid) (now : Timestamp) :
      Asks (.createItem (some input)) (.insert .items [(Item.register input id now).cells] true)
  | orderById (id : Uuid) :
      Asks (.orderById id) ⟨.select .orders (.equals "id" 1) [] none, [.uuid id]⟩
  | orderLines (id : Uuid) (ids : List Uuid) :
      Asks (.orderById id) ⟨OrderStore.linesQuery, [.uuids ids]⟩
  | searchBegin (accountId : Uuid) (request : PageRequest) :
      Asks (.orderSearch accountId request) ⟨.begin, []⟩
  | searchSnapshot (accountId : Uuid) (request : PageRequest) :
      Asks (.orderSearch accountId request) ⟨.snapshot, []⟩
  | searchCount (accountId : Uuid) (request : PageRequest) :
      Asks (.orderSearch accountId request)
        ⟨.count .orders (.equals "account_id" 1), [.uuid accountId]⟩
  | searchWindow (accountId : Uuid) {request : PageRequest} {sort : SortOrder}
      (passes : request.sort.check OrderStore.sortable = .ok sort) :
      Asks (.orderSearch accountId request)
        ⟨.select .orders (.equals "account_id" 1) sort.terms (some ⟨2, 3⟩),
          .uuid accountId :: request.windowCells⟩
  | searchLines (accountId : Uuid) (request : PageRequest) (ids : List Uuid) :
      Asks (.orderSearch accountId request) ⟨OrderStore.linesQuery, [.uuids ids]⟩
  | searchCommit (accountId : Uuid) (request : PageRequest) :
      Asks (.orderSearch accountId request) ⟨.commit, []⟩
  | orderBegin (input : NewOrder) : Asks (.createOrder (some input)) ⟨.begin, []⟩
  | orderAccount (input : NewOrder) :
      Asks (.createOrder (some input))
        ⟨.exists .accounts (.equals "id" 1), [.uuid input.accountId]⟩
  | newOrder (input : NewOrder) (order : Order) :
      Asks (.createOrder (some input)) (.insert .orders [order.cells] false)
  | newLines {input : NewOrder} {lines : List OrderLine}
      (many : lines.length = (Order.numberLines input).length) :
      Asks (.createOrder (some input)) (.insert .orderItems (lines.map OrderLine.cells) false)
  | orderCommit (input : NewOrder) : Asks (.createOrder (some input)) ⟨.commit, []⟩
  | orderRollback (input : NewOrder) : Asks (.createOrder (some input)) ⟨.rollback, []⟩

/-- The error that a failure of the database is to a call. -/
def failure (call : StoreCall) (cause : DriverError) : StoreError :=
  if call.makesOrder then .transaction cause else .ofDriver cause

/-- The answer to a call that has failed. -/
def failed (cause : StoreError) : StoreCall → StoreAnswer
  | .accountById _ | .accountByEmail _ | .createAccount _ => .account (.error cause)
  | .itemById _ | .createItem _ => .item (.error cause)
  | .itemPage _ => .items (.error cause)
  | .orderById _ | .createOrder _ => .order (.error cause)
  | .orderSearch _ _ => .orders (.error cause)

end StoreCall

/-- The error that an answer is, if it is one. -/
def StoreAnswer.error? : StoreAnswer → Option StoreError
  | .account result => StoreError.of? result
  | .item result => StoreError.of? result
  | .items result => StoreError.of? result
  | .order result => StoreError.of? result
  | .orders result => StoreError.of? result

/-- An operation of a call is conducted as the call is, if its errors are. -/
theorem Operation.Conducted.answers {α : Type} {reply : Except StoreError α → StoreAnswer}
    {operation : Operation α} {fail : DriverError → StoreError} {after : Standing}
    (conducted : operation.Conducted allowed fail {} after) (limit : Option Duration)
    (told : ∀ result, (reply result).error? = StoreError.of? result) :
    (reply <$> operation.within limit).Conducted allowed (fun cause => reply (.error (fail cause)))
      fun answer => ∀ cause ∈ answer.error?, cause.Arises fail :=
  (conducted.within limit).map _ fun result arises => told result ▸ arises

/-- **Every call is conducted**: it sends nothing but its own statements, its first failure decides the
answer, and every other error says that something does not exist. -/
theorem StoreCall.action_conducted (limit : Option Duration) (call : StoreCall) :
    (call.action limit).Conducted call.Asks (fun cause => call.failed (call.failure cause))
      fun answer => ∀ cause ∈ answer.error?, cause.Arises call.failure := by
  cases call with
  | accountById id =>
    exact (AccountStore.find_conducted (.accountById id)).answers limit fun _ => rfl
  | accountByEmail email =>
    exact (AccountStore.find_conducted (.accountByEmail email)).answers limit fun _ => rfl
  | createAccount input =>
    cases input with
    | none => trivial
    | some input =>
      exact (AccountStore.add_conducted .newAccount).answers limit fun _ => rfl
  | itemById id =>
    exact (ItemStore.find_conducted (.itemById id)).answers limit fun _ => rfl
  | itemPage request =>
    unfold action ItemStore.inDatabase
    dsimp only
    cases passes : request.sort.check ItemStore.sortable with
    | error cause => trivial
    | ok sort =>
      exact (ItemStore.list_conducted (.itemBegin _) (.itemSnapshot _) (.itemCount _)
        (.itemWindow passes) (.itemCommit _)).answers limit fun _ => rfl
  | createItem input =>
    cases input with
    | none => trivial
    | some input =>
      exact (ItemStore.add_conducted .newItem).answers limit fun _ => rfl
  | orderById id =>
    exact (OrderStore.find_conducted (.orderById id) (.orderLines id)).answers limit fun _ => rfl
  | orderSearch accountId request =>
    unfold action OrderStore.inDatabase
    dsimp only
    cases passes : request.sort.check OrderStore.sortable with
    | error cause => trivial
    | ok sort =>
      exact (OrderStore.list_conducted (.searchBegin _ _) (.searchSnapshot _ _) (.searchCount _ _)
        (.searchWindow _ passes) (.searchLines _ _) (.searchCommit _ _)).answers limit fun _ => rfl
  | createOrder input =>
    cases input with
    | none => trivial
    | some input =>
      exact (OrderStore.add_conducted (.orderBegin _) (.orderAccount _) (.newOrder _)
        (fun _ => .newLines) (.orderCommit _) (.orderRollback _)).answers limit fun _ => rfl

namespace StoreCall

variable (call : StoreCall)

/-- A call sends nothing but its own statements. -/
theorem program_asks : call.program.Sends call.Asks := (call.action_conducted none).sends

/-- The first failure decides the answer to a call. -/
theorem program_failsAs : call.program.FailsAs fun cause => call.failed (call.failure cause) :=
  (call.action_conducted none).failsAs

/-- A call minds its transactions. -/
theorem program_tidy : call.program.Tidy := (call.action_conducted none).tidy

/-- No call waits for more than it may. -/
theorem frugal_program : call.program.Frugal := (call.action_conducted none).frugal

end StoreCall

/-- Asking for the health of the database is conducted, too. -/
theorem Health.ping_conducted :
    ping.Conducted (· = ⟨.ping, []⟩) .error (fun _ _ => True) {} := by
  refine ⟨nofun, { connected := true }, rfl, fun answer => ?_⟩
  cases answer with
  | error cause => exact ⟨fun found failed => by cases failed; rfl, nofun⟩
  | ok given =>
    refine ⟨nofun, fun _ => ⟨?_, { connected := true }, rfl, fun reply => ?_⟩⟩
    · rintro _ ⟨⟩
      rfl
    · cases reply with
      | error cause => exact ⟨fun found failed => by cases failed; rfl, nofun⟩
      | ok rows => exact ⟨nofun, fun _ => trivial⟩

end Storefront
