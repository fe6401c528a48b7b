/-
**Statements whose answers come too late.**

A limit can pass after a statement has been sent and before its answer is heard.  The server does what the
statement says all the same, and the program is dropped without knowing of it: in the trace of the run the
statement is overdue, and no other is.  So a program that is dropped has added to the tables what it had
added where it stood, unless a statement is overdue; then the tables are what that statement has made of
them.

`Program.DecidedBy` says that a program comes to a result at once when such a statement succeeds.  What it
would have come to is then what it has already done.

Main statements:

* `Session.send_met`: all that can become of a statement, by whether it is overdue;
* `Session.run_halted`, `Machine.perform_halted`: how runs end, by whether a statement is overdue.
-/

import Storefront.Proofs.Program.Sends
import Storefront.Proofs.Program.Traces

namespace Storefront

variable {α β : Type} {environment : Environment} {limit outer : Option Duration}

/-! ### Statements -/

/-- Nothing in the trace is overdue. -/
def Event.Punctual (events : List Event) : Prop := ∀ event ∈ events, event.outcome ≠ .overdue

theorem Event.punctual_nil : Punctual [] := nofun

theorem Event.punctual_singleton {event : Event} (heard : event.outcome ≠ .overdue) : Punctual [event] :=
  List.forall_mem_singleton.mpr heard

theorem Event.punctual_append {first second : List Event} :
    Punctual (first ++ second) ↔ Punctual first ∧ Punctual second := List.forall_mem_append

/-- What becomes of a statement that is sent, by what reaches the database. -/
inductive Session.Met [Collation] (session : Session) (statement : Statement) :
    Option Event → Session × Reply (Except DriverError (List Row)) → Prop
  | heard {event : Option Event} {after : Session} {answer : Except DriverError (List Row)} {rows : Tables}
      (exchange : Exchange statement session.machine.tables session.connection answer rows after.connection)
      (tables : after.machine.tables = session.machine.tables ++ rows)
      (punctual : Event.Punctual event.toList) : Met session statement event (after, .answer answer)
  | undone {event : Option Event} {after : Session} {reply : Reply (Except DriverError (List Row))}
      (tables : after.machine.tables = session.machine.tables) (silent : ∀ answer, reply ≠ .answer answer)
      (punctual : Event.Punctual event.toList) : Met session statement event (after, reply)
  | overdue {after : Session} {connection : Connection} {rows : List Row}
      (held : session.connection = some connection)
      (succeeded : (execute session.machine.tables connection.transaction statement).answer = .ok rows)
      (tables : after.machine.tables =
        (execute session.machine.tables connection.transaction statement).tables) :
      Met session statement (some ⟨statement, .overdue⟩) (after, .late)

/-- A statement that is answered with an error has done nothing. -/
theorem execute_tables_of_error [Collation] {tables : Tables} {transaction : Option Transaction}
    {statement : Statement} {report : Report}
    (fails : (execute tables transaction statement).answer = .error report) :
    (execute tables transaction statement).tables = tables := by
  unfold execute at fails ⊢
  split
  · split <;> rfl
  · next stands =>
    rw [if_neg stands] at fails
    unfold perform at fails ⊢
    cases query : statement.query with
    | insert table groups returning =>
      rw [query] at fails
      dsimp only at fails ⊢
      split
      · rfl
      · next fits =>
        rw [fits] at fails
        cases transaction <;> cases fails
    | commit =>
      rw [query] at fails
      cases fails
    | _ => rfl

namespace Session

variable [Collation] {session : Session} {statement : Statement}

/-- An answer that says nothing of the tables is heard in time, or it does not matter. -/
theorem met_of_reply {event : Option Event} {after : Session} {answer : Except DriverError (List Row)}
    (exchange : Exchange statement session.machine.tables session.connection answer .empty
      after.connection)
    (tables : after.machine.tables = session.machine.tables) (punctual : Event.Punctual event.toList) :
    session.Met statement event (after, after.reply limit answer) := by
  unfold reply
  split
  · exact .heard exchange (tables.trans (Tables.append_empty _).symm) punctual
  · exact .undone tables (fun _ => nofun) punctual

/-- A statement that the server carries out. -/
theorem met_of_answered {connection : Connection} (held : session.connection = some connection)
    (answered : environment.fate session.machine.sent statement = .answered) :
    session.Met statement (some ⟨statement, session.outcome environment limit connection statement⟩)
      (((session.pass environment).log statement).meet limit connection statement .answered) := by
  obtain ⟨rows, added⟩ := execute_tables session.machine.tables connection.transaction statement
  have exchange : Exchange statement session.machine.tables session.connection
      ((execute session.machine.tables connection.transaction statement).answer.mapError .refused) rows
      (some (connection.after statement
        (execute session.machine.tables connection.transaction statement))) := by
    rw [held]
    exact .carriedOut added
  have found : session.outcome environment limit connection statement =
      .ofAnswer ((session.pass environment).inTime limit)
        (execute session.machine.tables connection.transaction statement).answer := by
    rw [outcome, answered]
  rw [found]
  cases punctual : (session.pass environment).inTime limit with
  | true =>
    have heard : ((session.pass environment).log statement).meet limit connection statement .answered =
        ((((session.pass environment).log statement).carryOut limit connection statement).1,
          .answer ((execute session.machine.tables connection.transaction statement).answer.mapError
            .refused)) :=
      congrArg (Prod.mk _) (if_pos punctual)
    rw [heard]
    refine .heard ?_ added (Event.punctual_singleton ?_)
    · unfold carryOut
      dsimp only
      rw [show ((session.pass environment).log statement).inTime limit = true from punctual]
      exact exchange
    · cases (execute session.machine.tables connection.transaction statement).answer <;> exact nofun
  | false =>
    have unheard : ((session.pass environment).log statement).meet limit connection statement .answered =
        ((((session.pass environment).log statement).carryOut limit connection statement).1, .late) :=
      congrArg (Prod.mk _) (if_neg (Bool.eq_false_iff.mp punctual))
    rw [unheard]
    cases answer : (execute session.machine.tables connection.transaction statement).answer with
    | ok rows => exact .overdue held answer rfl
    | error report =>
      exact .undone (execute_tables_of_error answer) (fun _ => nofun) (Event.punctual_singleton nofun)

/-- A statement that reaches the database. -/
theorem met_of_reached {connection : Connection} {fate : Fate} (held : session.connection = some connection)
    (reached : environment.fate session.machine.sent statement = fate) :
    session.Met statement (some ⟨statement, session.outcome environment limit connection statement⟩)
      (((session.pass environment).log statement).meet limit connection statement fate) := by
  have other : fate ≠ .answered →
      Event.Punctual [⟨statement, session.outcome environment limit connection statement⟩] := by
    intro different
    refine Event.punctual_singleton ?_
    unfold outcome
    rw [reached]
    cases fate with
    | answered => exact absurd rfl different
    | _ => exact nofun
  cases fate with
  | answered => exact met_of_answered held reached
  | refused report =>
    refine met_of_reply ?_ rfl (other nofun)
    rw [held]
    exact .refused report
  | disconnected =>
    refine met_of_reply ?_ rfl (other nofun)
    rw [held]
    exact .broken
  | silent => exact .undone rfl (fun _ => nofun) (other nofun)
  | crashed => exact .undone rfl (fun _ => nofun) (other nofun)

/-- **All that can become of a statement**, by whether it is overdue. -/
theorem send_met (session : Session) :
    session.Met statement (session.event? environment limit (.send statement))
      (session.send environment limit statement) := by
  unfold event?
  cases held : session.connection with
  | none =>
    rw [send_unconnected held]
    refine met_of_reply ?_ rfl Event.punctual_nil
    rw [held, show (session.pass environment).connection = none from held]
    exact .unconnected
  | some connection =>
    cases accepted : statement.refused? with
    | some report =>
      dsimp only
      rw [accepted, send_unaccepted held accepted]
      refine met_of_reply ?_ rfl Event.punctual_nil
      rw [held]
      exact .refused report
    | none =>
      dsimp only
      rw [accepted, send_reached held accepted]
      exact met_of_reached held rfl

end Session

/-! ### Deciding statements -/

/-- When such a statement succeeds the program comes to such a result at once. -/
inductive Program.DecidedBy (deciding : Statement → Prop) (good : α → Prop) : Program α → Prop
  | done (value : α) : DecidedBy deciding good (.done value)
  | last {statement : Statement} {next : Except DriverError (List Row) → Program α}
      (succeeds : ∀ rows, ∃ value, next (.ok rows) = .done value ∧ good value)
      (fails : ∀ cause, DecidedBy deciding good (next (.error cause))) :
      DecidedBy deciding good (.ask (.send statement) next)
  | before {call : Call} {next : call.Answer → Program α}
      (other : ∀ statement, call = .send statement → ¬ deciding statement)
      (goes : ∀ answer, DecidedBy deciding good (next answer)) : DecidedBy deciding good (.ask call next)

section Deciding

variable {deciding : Statement → Prop} {good : α → Prop}

theorem Program.DecidedBy.goes {call : Call} {next : call.Answer → Program α}
    (decided : (ask call next).DecidedBy deciding good) (answer : call.Answer) :
    (next answer).DecidedBy deciding good := by
  cases decided with
  | last succeeds fails =>
    cases answer with
    | ok rows =>
      obtain ⟨value, same, _⟩ := succeeds rows
      exact same ▸ .done value
    | error cause => exact fails cause
  | before other goes => exact goes answer

theorem Program.DecidedBy.succeeds {statement : Statement}
    {next : Except DriverError (List Row) → Program α}
    (decided : (ask (.send statement) next).DecidedBy deciding good) (decides : deciding statement)
    (rows : List Row) : ∃ value, next (.ok rows) = .done value ∧ good value := by
  cases decided with
  | last succeeds fails => exact succeeds rows
  | before other goes => exact absurd decides (other statement rfl)

/-- A program that sends no such statement. -/
theorem Program.Sends.decidedBy {program : Program α}
    (sends : program.Sends fun statement => ¬ deciding statement) : program.DecidedBy deciding good := by
  induction program with
  | done value => exact .done value
  | ask call next ih => exact .before sends.1 fun answer => ih answer (sends.2 answer)

/-- Something that sends no such statement may come first. -/
theorem Program.Sends.decidedBy_bind {good : β → Prop} {program : Program α} {next : α → Program β}
    (sends : program.Sends fun statement => ¬ deciding statement)
    (rest : ∀ value, (next value).DecidedBy deciding good) :
    (program >>= next).DecidedBy deciding good := by
  induction program with
  | done value => exact rest value
  | ask call goes ih => exact .before sends.1 fun answer => ih answer (sends.2 answer)

theorem Program.DecidedBy.map {other : β → Prop} {program : Program α} {f : α → β}
    (decided : program.DecidedBy deciding good) (implies : ∀ value, good value → other (f value)) :
    (program >>= fun value => .done (f value)).DecidedBy deciding other := by
  induction decided with
  | done value => exact .done (f value)
  | last succeeds fails ih =>
    refine .last (fun rows => ?_) ih
    obtain ⟨value, same, fine⟩ := succeeds rows
    exact ⟨f value, congrArg (· >>= fun value => .done (f value)) same, implies value fine⟩
  | before other goes ih => exact .before other ih

/-- Something that sends no such statement may come first. -/
theorem Operation.decidedBy_bind {good : Except StoreError β → Prop} {operation : Operation α}
    {next : α → Operation β} (sends : operation.run.Sends fun statement => ¬ deciding statement)
    (rest : ∀ value, (next value).run.DecidedBy deciding good) :
    (operation >>= next).run.DecidedBy deciding good := by
  rw [run_bind]
  refine sends.decidedBy_bind fun result => ?_
  cases result with
  | ok value => exact rest value
  | error cause => exact .done _

theorem Action.decidedBy_program_map {other : β → Prop} {f : α → β} {action : Action α}
    (decided : action.program.DecidedBy deciding good) (implies : ∀ value, good value → other (f value)) :
    (f <$> action).program.DecidedBy deciding other := by
  cases action with
  | answered value => exact .done (f value)
  | waiting limit program => exact decided.map implies

end Deciding

/-! ### Runs -/

/-- How a run can end that found these tables, by whether a statement is overdue. -/
inductive Machine.Halted [Collation] (cut : Cut) (post : α → View → Prop) (deciding : Statement → Prop)
    (good : α → Prop) (found : Tables) (events : List Event) (after : Tables) : Ending α → Prop
  | finished {value : α} (view : View) (tables : after = found ++ view.added) (kept : post value view)
      (punctual : Event.Punctual events) :
      Halted cut post deciding good found events after (.finished value)
  | dropped {ending : Ending α} (view : View) (tables : after = found ++ view.added) (kept : cut none view)
      (unfinished : ∀ value, ending ≠ .finished value) (punctual : Event.Punctual events) :
      Halted cut post deciding good found events after ending
  | overdue (statement : Statement) (member : ⟨statement, .overdue⟩ ∈ events)
      (only : ∀ event ∈ events, event.outcome = .overdue → event.statement = statement)
      (view later : View) (connection : Connection) (rows : List Row)
      (standing : cut none view) (grown : view.tables = found ++ view.added)
      (held : view.connection = some connection)
      (succeeded : (execute view.tables connection.transaction statement).answer = .ok rows)
      (tables : after = (execute view.tables connection.transaction statement).tables)
      (same : after = found ++ later.added)
      (kept : cut (some statement) later)
      (concluded : deciding statement → ∃ value, good value ∧ post value later) :
      Halted cut post deciding good found events after .abandoned

section Runs

/-- A program has only allowed statements in its trace. -/
theorem Session.events_sends [Collation] {allowed : Statement → Prop} {program : Program α}
    (sends : program.Sends allowed) (session : Session) :
    ∀ event ∈ session.events environment limit program, allowed event.statement := by
  induction program generalizing session with
  | done value => exact nofun
  | ask call next ih =>
    rw [events_ask]
    intro event member
    rcases List.mem_append.mp member with first | later
    · cases call with
      | send statement =>
        have same : event.statement = statement := by
          unfold event? at first
          dsimp only at first
          split at first
          · exact congrArg Event.statement (List.mem_singleton.mp first)
          · cases first
        exact same ▸ sends.1 statement rfl
      | _ => cases first
    · split at later
      · exact ih _ (sends.2 _) _ event later
      · cases later

variable {cut : Cut} {post : α → View → Prop} {deciding : Statement → Prop} {good : α → Prop}
  {found : Tables} {program : Program α}

/-- Events that are not overdue do not matter. -/
theorem Machine.Halted.among [Collation] {events more : List Event} {after : Tables} {ending : Ending α}
    (halted : Halted cut post deciding good found events after ending)
    (same : ∀ event, event.outcome = .overdue → (event ∈ more ↔ event ∈ events)) :
    Halted cut post deciding good found more after ending := by
  have still : Event.Punctual events → Event.Punctual more :=
    fun punctual event member late => punctual event ((same event late).mp member) late
  cases halted with
  | finished view tables kept punctual => exact .finished view tables kept (still punctual)
  | dropped view tables kept unfinished punctual =>
    exact .dropped view tables kept unfinished (still punctual)
  | overdue statement member only view later connection rows standing grown held succeeded tables same' kept
      concluded =>
    exact .overdue statement ((same _ rfl).mpr member)
      (fun event member late => only event ((same event late).mp member) late) view later connection rows
      standing grown held succeeded tables same' kept concluded

/-- Before a run there may be events that are not overdue. -/
theorem Machine.Halted.behind [Collation] {first events : List Event} {after : Tables}
    {ending : Ending α} (halted : Halted cut post deciding good found events after ending)
    (punctual : Event.Punctual first) :
    Halted cut post deciding good found (first ++ events) after ending :=
  halted.among fun event late =>
    List.mem_append.trans (or_iff_right fun member => punctual event member late)

/-- **A run ends in one of these ways.** -/
theorem Session.run_halted [Collation] {view : View} (decided : program.DecidedBy deciding good)
    (keeps : program.Keeps cut post view) (session : Session)
    (tables : session.machine.tables = view.tables) (connection : session.connection = view.connection)
    (grown : view.tables = found ++ view.added) :
    Machine.Halted cut post deciding good found (session.events environment limit program)
      (session.run environment limit program).1.machine.tables
      (session.run environment limit program).2 := by
  have abandoned : ∀ value, (.abandoned : Ending α) ≠ .finished value := by
    intro value same
    cases same
  have crashed : ∀ value, (.crashed : Ending α) ≠ .finished value := by
    intro value same
    cases same
  induction program generalizing session view with
  | done value =>
    exact .finished view (tables.trans grown) keeps Event.punctual_nil
  | ask call next ih =>
    have keeps := keeps view.tables view.permits_refl
    rw [run_ask, events_ask]
    cases call with
    | freshId =>
      exact (ih _ (decided.goes _) (keeps.2 _) (session.step environment limit .freshId).1 tables connection
        grown).behind Event.punctual_nil
    | readClock =>
      exact (ih _ (decided.goes _) (keeps.2 _) (session.step environment limit .readClock).1 tables
        connection grown).behind Event.punctual_nil
    | takeTurn =>
      rw [step]
      dsimp only
      by_cases early : (session.pass environment).inTime limit = true
      · rw [if_pos early]
        exact (ih _ (decided.goes _) keeps.2 { session.pass environment with
          machine := { (session.pass environment).machine with turnTaken := true } } tables connection
            grown).behind Event.punctual_nil
      · rw [if_neg early]
        exact .dropped view (tables.trans grown) keeps.1 abandoned Event.punctual_nil
    | connect =>
      rw [step]
      cases connected : session.connect environment with
      | mk after answer =>
        obtain ⟨same, _, given⟩ := connect_cases connected
        dsimp only
        unfold reply
        by_cases early : after.inTime limit = true
        · rw [if_pos early]
          obtain ⟨held, rfl⟩ | ⟨held, cause, rfl⟩ := given
          · exact (ih _ (decided.goes _) keeps.2.1 after (same.trans tables) held
              grown).behind Event.punctual_nil
          · exact (ih _ (decided.goes _) (keeps.2.2 cause) after (same.trans tables)
              (held.trans connection) grown).behind Event.punctual_nil
        · rw [if_neg early]
          exact .dropped view ((same.trans tables).trans grown) keeps.1 abandoned Event.punctual_nil
    | send statement =>
      obtain ⟨waiting, goes⟩ := keeps
      have met : session.Met statement (session.event? environment limit (.send statement))
          (session.send environment limit statement) := session.send_met
      rw [step]
      generalize session.send environment limit statement = outcome at met ⊢
      generalize session.event? environment limit (.send statement) = event at met ⊢
      cases met with
      | heard exchange added punctual =>
        rw [tables, connection] at exchange
        rw [tables] at added
        refine (ih _ (decided.goes _) (goes _ _ _ exchange).2.2 _ added rfl ?_).behind punctual
        exact (congrArg (· ++ _) grown).trans (Tables.append_assoc _ _ _)
      | @undone _ after reply same silent punctual =>
        cases reply with
        | answer answer => exact absurd rfl (silent answer)
        | late =>
          exact .dropped view ((same.trans tables).trans grown) waiting abandoned
            (Event.punctual_append.mpr ⟨punctual, Event.punctual_nil⟩)
        | crashed =>
          exact .dropped view ((same.trans tables).trans grown) waiting crashed
            (Event.punctual_append.mpr ⟨punctual, Event.punctual_nil⟩)
      | @overdue after own rows held succeeded same =>
        rw [tables] at succeeded same
        rw [connection] at held
        obtain ⟨added, grew⟩ := execute_tables view.tables own.transaction statement
        have exchange : Exchange statement view.tables view.connection
            ((execute view.tables own.transaction statement).answer.mapError .refused) added
            (some (own.after statement (execute view.tables own.transaction statement))) := by
          rw [held]
          exact .carriedOut grew
        -- The program never gets to see this answer; `decided` says what it would have made of it.
        obtain ⟨_, lost, goes⟩ := goes _ _ _ exchange
        refine .overdue statement (List.mem_singleton_self _) ?_ view _ own rows waiting grown held
          succeeded same ?_ lost fun decides => ?_
        · rintro event member _
          exact congrArg Event.statement (List.mem_singleton.mp member)
        · exact (same.trans grew).trans ((congrArg (· ++ added) grown).trans (Tables.append_assoc _ _ _))
        · obtain ⟨value, finishes, fine⟩ := decided.succeeds decides rows
          rw [succeeded] at goes
          change (next (.ok rows)).Keeps cut post _ at goes
          rw [finishes] at goes
          exact ⟨value, fine, goes⟩

/-- A transaction that has been left open is ended in time. -/
theorem Session.parting_punctual (session : Session) : Event.Punctual session.parting := by
  unfold parting
  cases session.connection with
  | none => exact Event.punctual_nil
  | some connection =>
    dsimp only
    split
    · exact Event.punctual_singleton nofun
    · exact Event.punctual_nil

/-- What is overdue in an action is a statement that its program sends. -/
theorem Machine.events_sends [Collation] {allowed : Statement → Prop} {action : Action α}
    (sends : action.program.Sends allowed) {machine : Machine} {event : Event}
    (member : event ∈ machine.events environment outer action) (late : event.outcome = .overdue) :
    allowed event.statement := by
  cases action with
  | answered value => cases member
  | waiting own program =>
    rcases List.mem_append.mp member with sent | parting
    · exact Session.events_sends sends _ event sent
    · exact absurd late (Session.parting_punctual _ event parting)

/-- **An action is performed in one of these ways**, whatever then stands in for its result. -/
theorem Machine.perform_halted [Collation] {action : Action α} {machine : Machine}
    (decided : action.program.DecidedBy deciding good)
    (keeps : action.program.Keeps cut post { tables := machine.tables }) :
    ∃ ending, Halted cut post deciding good machine.tables (machine.events environment outer action)
        (machine.perform environment outer action).1.tables ending ∧
      ∀ value, ending = .finished value → (machine.perform environment outer action).2 = ending := by
  cases action with
  | answered value =>
    exact ⟨.finished value, .finished _ (Tables.append_empty _).symm keeps Event.punctual_nil,
      fun _ _ => rfl⟩
  | waiting own program =>
    have halted := @Session.run_halted α environment (bound own outer) cut post deciding good
      machine.tables program _ { tables := machine.tables } decided keeps ⟨machine, none, 0⟩ rfl rfl
      (Tables.append_empty _).symm
    rw [perform_eq]
    refine ⟨(Session.run environment (bound own outer) program ⟨machine, none, 0⟩).2, ?_,
      fun value finished => ?_⟩
    · dsimp only
      rw [Session.tables_close]
      exact halted.among fun event late => List.mem_append.trans (or_iff_left fun member =>
        Session.parting_punctual _ event member late)
    · rw [finished]
      rfl

end Runs

end Storefront
