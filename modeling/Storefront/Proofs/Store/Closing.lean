/-
**Every transaction is closed.**

Whatever is done by calls and requests, one after another, and however each of them ends, every
transaction that has begun is closed before the next one begins, by one statement, or by a further
`ROLLBACK` if that one has not been heard to succeed.  The connections that are given back are as good
as new ones, and nobody keeps the turn to make an order.

Main statements:

* `TransactionsClosed.of_read`: what it means of a trace that it can be read;
* `Machine.transactions_closed`: the transactions of every run are closed;
* `Machine.commit_refused_closed_twice`: one closing statement is not always enough.
-/

import Storefront.Proofs.Http.Discretion
import Storefront.Proofs.Store.Soundness

namespace Storefront

/-! ### Spans of a trace -/

namespace Event

/-- Does the event begin a transaction? -/
def begins (event : Event) : Bool := event.statement.query == .begin

/-- Does the event end one? -/
def closes (event : Event) : Bool :=
  event.statement.query == .commit || event.statement.query == .rollback

/-- The events before the next transaction begins. -/
def span (events : List Event) : List Event := events.takeWhile fun event => !event.begins

/-- The events before the next transaction begins that end one. -/
def closings (events : List Event) : List Event := (span events).filter closes

theorem begins_of_closes {event : Event} (closing : event.closes = true) : event.begins = false := by
  unfold closes at closing
  unfold begins
  cases query : event.statement.query <;> rw [query] at closing <;> first | rfl | cases closing

theorem closings_cons_of_closes {event : Event} (rest : List Event) (closing : event.closes = true) :
    closings (event :: rest) = event :: closings rest := by
  rw [closings, span, List.takeWhile_cons_of_pos (by rw [begins_of_closes closing]; rfl),
    List.filter_cons_of_pos closing]
  rfl

theorem closings_cons_of_other {event : Event} (rest : List Event) (later : event.begins = false)
    (other : event.closes = false) : closings (event :: rest) = closings rest := by
  rw [closings, span, List.takeWhile_cons_of_pos (by rw [later]; rfl),
    List.filter_cons_of_neg (by rw [other]; exact nofun)]
  rfl

theorem closings_cons_of_begins {event : Event} (rest : List Event) (begun : event.begins = true) :
    closings (event :: rest) = [] := by
  rw [closings, span, List.takeWhile_cons_of_neg (by rw [begun]; exact nofun)]
  rfl

/-- What begins a transaction, what ends one, and what does neither. -/
theorem opened?_eq (event : Event) (opened : Bool) :
    event.statement.query.opened? opened =
      if event.begins then if opened then none else some true
      else if event.closes then if opened then some false else none
      else some opened := by
  unfold begins closes
  cases event.statement.query <;> rfl

end Event

open Event

namespace Phase

variable {event : Event} {events rest : List Event} {phase : Phase}

/-- Where everything goes well and no transaction is open, nothing ends one. -/
theorem closings_of_closed (read : (steady false).read events = some phase) : closings events = [] := by
  induction events with
  | nil => rfl
  | cons event rest ih =>
    rw [Phase.read, next, opened?_eq] at read
    cases begun : event.begins with
    | true => exact closings_cons_of_begins rest begun
    | false =>
      rw [begun] at read
      cases closing : event.closes with
      | true => rw [closing] at read; cases read
      | false =>
        rw [closing] at read
        rw [closings_cons_of_other rest begun closing]
        refine ih ?_
        have same : later false false event.outcome = .steady false := by
          cases event.outcome <;> rfl
        change (later false false event.outcome).read rest = some phase at read
        rwa [same] at read

/-- A transaction that can only be rolled back is rolled back at once. -/
theorem closings_of_failing (read : failing.read events = some (.steady false)) :
    closings events = [.rollback] := by
  cases events with
  | nil => cases read
  | cons event rest =>
    rw [Phase.read, next] at read
    split at read
    · next same =>
      subst same
      rw [closings_cons_of_closes rest rfl, closings_of_closed read]
    · cases read

/-- How a transaction is closed: unless the connection is lost, by one statement, and by a further
`ROLLBACK` only if that one has not been heard to succeed.  A connection that is lost takes its
transaction with it, before the statement that should close it or with that one. -/
def Closes (events : List Event) : Prop :=
  (∃ event ∈ span events, event.outcome = .lost) ∧ (closings events).length ≤ 1 ∨
    (∃ closing, closings events = [closing] ∧ closing.outcome = .succeeded) ∨
    ∃ closing, closings events = [closing, .rollback] ∧ closing.outcome ≠ .succeeded

theorem closes_of_failing (read : failing.read events = some (.steady false)) : Closes events :=
  Or.inr (Or.inl ⟨_, closings_of_failing read, rfl⟩)

theorem mem_span_cons (rest : List Event) (goes : event.begins = false) :
    span (event :: rest) = event :: span rest := by
  rw [span, List.takeWhile_cons_of_pos (by rw [goes]; rfl)]
  rfl

/-- An event that ends a transaction closes it, or leaves it to be rolled back. -/
theorem closes_of_closing (closing : event.closes = true)
    (read : (later true false event.outcome).read rest = some (.steady false)) :
    Closes (event :: rest) := by
  have all := closings_cons_of_closes rest closing
  cases outcome : event.outcome with
  | lost =>
    have first : event ∈ span (event :: rest) := by
      rw [mem_span_cons rest (begins_of_closes closing)]
      exact List.mem_cons_self
    rw [outcome] at read
    rw [closings_of_closed read] at all
    exact Or.inl ⟨⟨event, first, outcome⟩, by rw [all]; exact Nat.le_refl 1⟩
  | succeeded =>
    rw [outcome] at read
    rw [closings_of_closed read] at all
    exact Or.inr (Or.inl ⟨event, all, outcome⟩)
  | _ =>
    rw [outcome] at read
    rw [closings_of_failing read] at all
    exact Or.inr (Or.inr ⟨event, all, by rw [outcome]; decide⟩)

/-- An event that goes on with a transaction leaves it to what follows to close it. -/
theorem closes_of_going (begun : event.begins = false) (closing : event.closes = false)
    (read : (later true true event.outcome).read rest = some (.steady false))
    (goes : (steady true).read rest = some (.steady false) → Closes rest) : Closes (event :: rest) := by
  have same := closings_cons_of_other rest begun closing
  cases outcome : event.outcome with
  | lost =>
    have first : event ∈ span (event :: rest) := by
      rw [mem_span_cons rest begun]
      exact List.mem_cons_self
    rw [outcome] at read
    rw [closings_of_closed read] at same
    exact Or.inl ⟨⟨event, first, outcome⟩, by rw [same]; exact Nat.zero_le 1⟩
  | succeeded =>
    rw [outcome] at read
    unfold Closes
    rw [same, mem_span_cons rest begun]
    refine (goes read).imp_left ?_
    rintro ⟨⟨other, member, gone⟩, one⟩
    exact ⟨⟨other, List.mem_cons_of_mem _ member, gone⟩, one⟩
  | _ =>
    rw [outcome] at read
    exact Or.inr (Or.inl ⟨_, same.trans (closings_of_failing read), rfl⟩)

/-- An open transaction is closed. -/
theorem closes_of_open (read : (steady true).read events = some (.steady false)) : Closes events := by
  induction events with
  | nil => cases read
  | cons event rest ih =>
    rw [Phase.read, next, opened?_eq] at read
    cases begun : event.begins with
    | true => rw [begun] at read; cases read
    | false =>
      rw [begun] at read
      cases closing : event.closes with
      | true =>
        rw [closing] at read
        exact closes_of_closing closing read
      | false =>
        rw [closing] at read
        exact closes_of_going begun closing read ih

/-- The event belongs to a transaction that goes well and does not end it. -/
def Goes (event : Event) : Prop :=
  event.outcome = .succeeded ∧ event.begins = false ∧ event.closes = false

/-- A transaction is open after an event only if the event has succeeded, and has begun it or goes on
with it. -/
theorem opened_of_next (known : phase.next event = some (.steady true)) :
    phase = .steady true ∧ Goes event ∨ event.begins = true ∧ event.outcome = .succeeded := by
  cases phase with
  | failing =>
    rw [next] at known
    split at known <;> cases known
  | steady opened =>
    rw [next, opened?_eq] at known
    obtain ⟨after, allowed, known⟩ := Option.map_eq_some_iff.mp known
    have well : event.outcome = .succeeded ∧ after = true := by
      cases outcome : event.outcome with
      | succeeded => rw [outcome] at known; exact ⟨rfl, Phase.steady.inj known⟩
      | _ => rw [outcome] at known; cases opened <;> cases after <;> cases known
    obtain ⟨well, rfl⟩ := well
    cases begun : event.begins with
    | true => exact Or.inr ⟨rfl, well⟩
    | false =>
      rw [begun] at allowed
      cases closing : event.closes with
      | true => rw [closing] at allowed; cases opened <;> cases allowed
      | false =>
        rw [closing] at allowed
        obtain rfl : opened = true := Option.some.inj allowed
        exact Or.inl ⟨rfl, well, begun, closing⟩

/-- A transaction is open only behind its beginning and statements that have all succeeded. -/
theorem begun_of_open (read : phase.read events = some (.steady true)) :
    (phase = .steady true ∧ ∀ event ∈ events, Goes event) ∨
      ∃ earlier begun middle, events = earlier ++ begun :: middle ∧ begun.begins = true ∧
        begun.outcome = .succeeded ∧ ∀ event ∈ middle, Goes event := by
  induction events generalizing phase with
  | nil => exact Or.inl ⟨Option.some.inj read, nofun⟩
  | cons event rest ih =>
    rw [Phase.read] at read
    obtain ⟨after, known, read⟩ := Option.bind_eq_some_iff.mp read
    obtain ⟨rfl, well⟩ | ⟨earlier, begun, middle, rfl, begins, succeeded, well⟩ := ih read
    · obtain ⟨rfl, goes⟩ | ⟨begins, succeeded⟩ := opened_of_next known
      · exact Or.inl ⟨rfl, List.forall_mem_cons.mpr ⟨goes, well⟩⟩
      · exact Or.inr ⟨[], event, rest, rfl, begins, succeeded, well⟩
    · exact Or.inr ⟨event :: earlier, begun, middle, rfl, begins, succeeded, well⟩

/-- A trace is read up to an event, the event, and what follows it. -/
theorem read_behind {before after : List Event} {last : Phase}
    (read : phase.read (before ++ event :: after) = some last) :
    ∃ between later, phase.read before = some between ∧ between.next event = some later ∧
      later.read after = some last := by
  rw [read_append] at read
  obtain ⟨between, earlier, read⟩ := Option.bind_eq_some_iff.mp read
  rw [Phase.read] at read
  obtain ⟨later, known, read⟩ := Option.bind_eq_some_iff.mp read
  exact ⟨between, later, earlier, known, read⟩

/-- A transaction is begun where none is open. -/
theorem next_of_begins {after : Phase} (begun : event.begins = true)
    (known : phase.next event = some after) : after = later false true event.outcome := by
  cases phase with
  | failing =>
    rw [next] at known
    split at known
    · next same => subst same; cases begun
    · cases known
  | steady opened =>
    rw [next, opened?_eq, begun] at known
    cases opened with
    | true => cases known
    | false => exact (Option.some.inj known).symm

/-- A transaction is committed where it is open and has gone well. -/
theorem open_of_commit {after : Phase} (query : event.statement.query = .commit)
    (known : phase.next event = some after) : phase = .steady true := by
  cases phase with
  | failing =>
    rw [next] at known
    split at known
    · next same => subst same; cases query
    · cases known
  | steady opened =>
    rw [next, query] at known
    cases opened with
    | true => rfl
    | false => cases known

end Phase

/-! ### Closed transactions -/

/-- The transactions of a trace are closed. -/
structure TransactionsClosed (events : List Event) : Prop where
  /-- A transaction that has begun is closed before the next one begins, unless its connection is
  lost. -/
  closed : ∀ {before begun after}, events = before ++ begun :: after → begun.begins = true →
    begun.outcome = .succeeded ∨ begun.outcome = .overdue → Phase.Closes after
  /-- Without a `COMMIT` that has been sent it is rolled back. -/
  rolledBack : ∀ {before begun after}, events = before ++ begun :: after → begun.begins = true →
    begun.outcome = .succeeded ∨ begun.outcome = .overdue →
    (∀ event ∈ span after, event.outcome ≠ .lost) →
    (∀ event ∈ span after, event.statement.query ≠ .commit) →
    ∃ event ∈ span after, event.statement.query = .rollback ∧ event.outcome = .succeeded
  /-- A `COMMIT` is sent only after the beginning of the transaction and every statement in it have
  succeeded. -/
  committed : ∀ {before commit after}, events = before ++ commit :: after →
    commit.statement.query = .commit →
    ∃ earlier begun middle, before = earlier ++ begun :: middle ∧ begun.begins = true ∧
      begun.outcome = .succeeded ∧ ∀ event ∈ middle, Phase.Goes event

namespace TransactionsClosed

variable {events : List Event}

/-- What closes a transaction is in the span behind its beginning. -/
theorem mem_of_closings {event : Event} (member : event ∈ closings events) :
    event ∈ span events ∧ (event.statement.query = .commit ∨ event.statement.query = .rollback) := by
  obtain ⟨member, closing⟩ := List.mem_filter.mp member
  refine ⟨member, ?_⟩
  unfold closes at closing
  rcases Bool.or_eq_true_iff.mp closing with query | query
  · exact Or.inl (beq_iff_eq.mp query)
  · exact Or.inr (beq_iff_eq.mp query)

theorem rolledBack_of_closes (closed : Phase.Closes events)
    (kept : ∀ event ∈ span events, event.outcome ≠ .lost)
    (uncommitted : ∀ event ∈ span events, event.statement.query ≠ .commit) :
    ∃ event ∈ span events, event.statement.query = .rollback ∧ event.outcome = .succeeded := by
  obtain ⟨⟨event, member, lost⟩, _⟩ | ⟨closing, all, succeeded⟩ | ⟨closing, all, _⟩ := closed
  · exact absurd lost (kept event member)
  · obtain ⟨member, query⟩ := mem_of_closings (all ▸ List.mem_singleton_self closing)
    exact ⟨closing, member, query.resolve_left (uncommitted closing member), succeeded⟩
  · have last : Event.rollback ∈ closings events := by
      rw [all]
      exact List.mem_cons_of_mem _ List.mem_cons_self
    exact ⟨.rollback, (mem_of_closings last).1, rfl, rfl⟩

/-- **A trace that can be read has its transactions closed.** -/
theorem of_read (read : (Phase.steady false).read events = some (.steady false)) :
    TransactionsClosed events := by
  have closed : ∀ {before begun after}, events = before ++ begun :: after → begun.begins = true →
      begun.outcome = .succeeded ∨ begun.outcome = .overdue → Phase.Closes after := by
    rintro before begun after rfl begins done
    obtain ⟨phase, _, _, known, read⟩ := Phase.read_behind read
    rw [Phase.next_of_begins begins known] at read
    obtain done | done := done
    · rw [done] at read
      exact Phase.closes_of_open read
    · rw [done] at read
      exact Phase.closes_of_failing read
  refine { closed := closed, rolledBack := ?_, committed := ?_ }
  · intro before begun after same begins done
    exact rolledBack_of_closes (closed same begins done)
  · rintro before commit after rfl query
    obtain ⟨phase, _, earlier, known, _⟩ := Phase.read_behind read
    rw [Phase.open_of_commit query known] at earlier
    obtain ⟨same, _⟩ | begun := Phase.begun_of_open earlier
    · cases same
    · exact begun

end TransactionsClosed

/-! ### Runs -/

/-- The trace of a request. -/
def App.events [Collation] (app : App) (environment : Environment) (request : Request)
    (machine : Machine) :
    List Event :=
  (requestId environment request machine).1.events environment (some app.limit)
    (Handler.dispatch app.services request)

/-- The connections that are given back after a request. -/
def App.returned [Collation] (app : App) (environment : Environment) (request : Request)
    (machine : Machine) :
    List Connection :=
  (requestId environment request machine).1.returned environment (some app.limit)
    (Handler.dispatch app.services request)

/-- Everything that the server does minds its transactions. -/
theorem Handler.dispatch_tidy (limit : Option Duration) (request : Request) :
    (dispatch (.inDatabase limit) request).program.Tidy := by
  obtain ⟨response, _, same⟩ | ⟨route, _, _, same⟩ := @dispatch_cases limit request
  · rw [same]
    trivial
  · have task : ((Task.of request route).action limit route.status).program.Tidy := by
      cases Task.of request route with
      | answer response => trivial
      | health =>
        have ping : Health.check.program.Tidy := Health.ping_conducted.orderly
        exact Action.tidy_program_map ping
      | call call =>
        refine Action.tidy_program_map ?_
        rw [StoreCall.program_action]
        exact call.program_tidy
    rw [same]
    split
    · exact Action.tidy_program_map task
    · exact task

namespace Machine

/-- Calls of the stores, within any limits, and requests to servers, one after another, with the trace
that they leave and the connections that they give back.  In between the database may become
reachable or unreachable. -/
inductive Traced [Collation] (start : Machine) : List Event → List Connection → Machine → Prop
  | start : Traced start [] [] start
  | call {events : List Event} {returned : List Connection} {before : Machine}
      (run : Traced start events returned before) (environment : Environment)
      (outer limit : Option Duration) (call : StoreCall) :
      Traced start (events ++ before.events environment outer (call.action limit))
        (returned ++ before.returned environment outer (call.action limit))
        (before.perform environment outer (call.action limit)).1
  | request {events : List Event} {returned : List Connection} {before : Machine}
      (run : Traced start events returned before) {settings : ServerSettings}
      {limit : Option Duration} {app : App} (environment : Environment)
      (built : App.build? settings limit = some app) (request : Request) :
      Traced start (events ++ app.events environment request before)
        (returned ++ app.returned environment request before)
        (app.respond environment request before).1
  | pool {events : List Event} {returned : List Connection} {before : Machine}
      (run : Traced start events returned before) (state : PoolState) :
      Traced start events returned { before with pool := state }

/-- What one operation does to the machine, to the trace and to its connection. -/
structure Leaves (before : Machine) (events : List Event) (returned : List Connection)
    (after : Machine) : Prop where
  sent : after.sent = before.sent ++ events.map Event.statement
  read : (Phase.steady false).read events = some (.steady false)
  returned : ∀ connection ∈ returned, connection = {}
  free : before.turnTaken = false → after.turnTaken = false

theorem leaves_perform [Collation] {α : Type} {environment : Environment} {outer : Option Duration}
    {fail : DriverError → α} {action : Action α} (fails : action.program.FailsAs fail)
    (tidy : action.program.Tidy) (machine : Machine) :
    machine.Leaves (machine.events environment outer action) (machine.returned environment outer action)
      (machine.perform environment outer action).1 :=
  have ⟨read, returned⟩ := events_read fails tidy machine
  ⟨sent_perform action machine, read, returned, turnTaken_perform action⟩

theorem leaves_call [Collation] (environment : Environment) (outer limit : Option Duration)
    (call : StoreCall) (machine : Machine) :
    machine.Leaves (machine.events environment outer (call.action limit))
      (machine.returned environment outer (call.action limit))
      (machine.perform environment outer (call.action limit)).1 := by
  have same := call.program_action limit
  exact leaves_perform (same ▸ call.program_failsAs) (same ▸ call.program_tidy) machine

theorem leaves_respond [Collation] {app : App} {limit : Option Duration}
    (services : app.services = .inDatabase limit) (environment : Environment) (request : Request)
    (machine : Machine) :
    machine.Leaves (app.events environment request machine) (app.returned environment request machine)
      (app.respond environment request machine).1 := by
  obtain ⟨fail, fails, _⟩ := Handler.dispatch_hides limit request
  have leaves : (App.requestId environment request machine).1.Leaves
      (app.events environment request machine) (app.returned environment request machine)
      (app.attend environment request machine).1 := by
    unfold App.events App.returned App.attend
    rw [services]
    exact leaves_perform fails (Handler.dispatch_tidy limit request) _
  have turn : (App.requestId environment request machine).1.turnTaken = machine.turnTaken := by
    rcases App.requestId_cases environment request machine with same | same <;> rw [same]
  by_cases options : request.method = "OPTIONS"
  · -- A question what is allowed is answered without the work on it.
    have silent : app.events environment request machine = [] ∧
        app.returned environment request machine = [] := by
      unfold App.events App.returned
      rw [services]
      obtain ⟨response, same⟩ := @Handler.dispatch_options limit request options
      rw [same]
      exact ⟨rfl, rfl⟩
    rw [silent.1, silent.2, App.respond_options options]
    exact ⟨(List.append_nil _).symm, rfl, nofun, id⟩
  · rw [(App.respond_eq options).1]
    have sent := leaves.sent
    rw [App.sent_requestId] at sent
    exact ⟨sent, leaves.read, leaves.returned, turn ▸ leaves.free⟩

/-- **The transactions of every run are closed.** However calls and requests fare, one after another,
and wherever they are dropped, the trace is what has reached the database, every transaction in it is
closed, the connections that are given back are as good as new ones, and the turn to make an order is
free. -/
theorem transactions_closed [Collation] {start last : Machine} {events : List Event}
    {returned : List Connection} (free : start.turnTaken = false)
    (run : start.Traced events returned last) :
    last.sent = start.sent ++ events.map Event.statement ∧ TransactionsClosed events ∧
      (∀ connection ∈ returned, connection = {}) ∧ last.turnTaken = false := by
  have leaves : start.Leaves events returned last := by
    have trans : ∀ {events more : List Event} {returned others : List Connection} {before after : Machine},
        start.Leaves events returned before → before.Leaves more others after →
        start.Leaves (events ++ more) (returned ++ others) after := by
      intro events more returned others before after first second
      refine ⟨?_, ?_, ?_, fun free => second.free (first.free free)⟩
      · rw [second.sent, first.sent, List.map_append, List.append_assoc]
      · rw [Phase.read_append, first.read]
        exact second.read
      · intro connection member
        rcases List.mem_append.mp member with old | new
        · exact first.returned connection old
        · exact second.returned connection new
    induction run with
    | start => exact ⟨(List.append_nil _).symm, rfl, nofun, id⟩
    | call run environment outer limit call ih =>
      exact trans ih (leaves_call environment outer limit call _)
    | request run environment built request ih =>
      exact trans ih (leaves_respond (App.services_of_build? built) environment request _)
    | pool run state ih => exact ⟨ih.sent, ih.read, ih.returned, ih.free⟩
  exact ⟨leaves.sent, .of_read leaves.read, leaves.returned, leaves.free free⟩

/-- An environment in which no transaction can be committed. -/
def uncommitting : Environment :=
  { Environment.sample with
    fate := fun _ statement =>
      if statement.query = .commit then .refused ⟨some "40001", none, "could not serialize access"⟩
      else .answered }

/-- A page of items whose `COMMIT` is refused, and then an order of an account that is not there. -/
theorem transactions_closed_sample :
    ∃ (events : List Event) (returned : List Connection) (last : Machine),
      ({} : Machine).turnTaken = false ∧ Traced {} events returned last ∧ events.length = 9 ∧
        returned.length = 2 ∧ last.sent = events.map Event.statement ∧ TransactionsClosed events ∧
        (∀ connection ∈ returned, connection = {}) ∧ last.turnTaken = false := by
  have run : Traced {} _ _ _ :=
    .call (.call .start uncommitting none none (.itemPage .unpaged)) .sample none none
      (.createOrder (some ⟨.numbered 1, []⟩))
  obtain ⟨sent, closed, returned, free⟩ := transactions_closed rfl run
  exact ⟨_, _, _, rfl, run, by decide +kernel, by decide +kernel, sent, closed, returned, free⟩

/-- **One closing statement is not always enough**: a `COMMIT` that is refused is followed by a
`ROLLBACK`, so that the transaction of a page is closed by two statements. -/
theorem commit_refused_closed_twice :
    ∃ (after : List Event) (returned : List Connection) (last : Machine),
      Traced {} (⟨⟨.begin, []⟩, .succeeded⟩ :: after) returned last ∧
        closings after = [⟨⟨.commit, []⟩, .failed⟩, ⟨⟨.rollback, []⟩, .succeeded⟩] ∧
        ¬ ∃ closing, closings after = [closing] := by
  have run : Traced {} _ _ _ := .call .start uncommitting none none (.itemPage .unpaged)
  have begun : ∃ after, [] ++ ({} : Machine).events uncommitting none
        ((StoreCall.itemPage .unpaged).action none) = ⟨⟨.begin, []⟩, .succeeded⟩ :: after ∧
      closings after = [⟨⟨.commit, []⟩, .failed⟩, ⟨⟨.rollback, []⟩, .succeeded⟩] :=
    ⟨_, rfl, by decide +kernel⟩
  obtain ⟨after, same, closed⟩ := begun
  rw [same] at run
  refine ⟨after, _, _, run, closed, fun ⟨closing, one⟩ => ?_⟩
  rw [closed] at one
  cases one

end Machine

end Storefront
