/-
**Limits.**

A limit is set for all the waits of a program together.  How long these take (`Session.waiting`) is
counted along the run without a limit: each wait takes its time, a wait that nothing ends takes forever, and
a wait whose task breaks down is over.  The sum alone decides.  If the limit is not passed the run is the
run without it, and if it is passed the program is dropped; until then it does what it does without a limit.

Main statements:

* `Session.run_of_waiting_le`: a limit that the waits keep changes nothing;
* `Session.run_of_lt_waiting`: a program whose waits take longer is dropped;
* `Session.places_limited`: up to the limit it makes the same calls, and after it none;
* `Machine.sent_run_within`: so a run within a limit sends what is sent until the limit has passed.
-/

import Mathlib.Data.ENat.Basic
import Storefront.Proofs.Program.Endings
import Storefront.Proofs.Program.Traces

namespace Storefront

variable {α : Type} {environment : Environment} {limit : Duration}

/-! ### How long waits take -/

/-- Where a call is made, and which. -/
def Moment.place (moment : Moment) : Session × Call := (moment.before, moment.call)

/-- Is the call made before a limit has passed? -/
def Moment.inTime (bound : Option Duration) (moment : Moment) : Bool := moment.before.inTime bound

/-- How long a moment of a run without a limit takes. -/
noncomputable def Moment.length (environment : Environment) (moment : Moment) : ℕ∞ :=
  if moment.call.waits then
    match moment.reply with
    | .answer _ => environment.delay moment.before.machine.waits
    | .late => ⊤
    | .crashed => 0
  else 0

/-- How long all waits of a program take together when no limit is set. -/
noncomputable def Session.waiting [Collation] (environment : Environment) (program : Program α)
    (session : Session) : ℕ∞ :=
  ((session.moments environment none program).map (Moment.length environment)).sum

/-- How long a call takes when no limit is set. -/
noncomputable def Session.waitingFor [Collation] (environment : Environment) (call : Call)
    (session : Session) : ℕ∞ :=
  Moment.length environment ⟨session, call, (session.step environment none call).2⟩

theorem Session.waiting_ask [Collation] (call : Call) (next : call.Answer → Program α)
    (session : Session) :
    session.waiting environment (.ask call next) = session.waitingFor environment call +
      match (session.step environment none call).2 with
      | .answer answer => (session.step environment none call).1.waiting environment (next answer)
      | _ => 0 := by
  rw [waiting, moments, List.map_cons, List.sum_cons, waitingFor]
  cases (session.step environment none call).2 <;> rfl

/-! ### Steps within a limit -/

namespace Session

theorem inTime_eq_true_iff {session : Session} :
    session.inTime (some limit) = true ↔ session.elapsed ≤ limit.nanos := decide_eq_true_iff

variable [Collation]

/-- What a program gets for a statement depends on the limit only by whether the answer is in time. -/
theorem reply_send (session : Session) (statement : Statement) :
    (∃ answer, ∀ limit, (session.send environment limit statement).2 =
        (session.pass environment).reply limit answer) ∨
      (∀ limit, (session.send environment limit statement).2 = .late) ∨
      ∃ after, ∀ limit, session.send environment limit statement = (after, .crashed) := by
  cases held : session.connection with
  | none => exact .inl ⟨_, fun limit => by rw [send_unconnected held]⟩
  | some connection =>
    cases accepted : statement.refused? with
    | some report => exact .inl ⟨_, fun limit => by rw [send_unaccepted held accepted]; rfl⟩
    | none =>
      have reached := fun limit =>
        @send_reached _ environment limit session connection statement held accepted
      cases fate : environment.fate session.machine.sent statement with
      | answered =>
        refine .inl ⟨(execute session.machine.tables connection.transaction statement).answer.mapError
          .refused, fun limit => ?_⟩
        rw [reached limit, fate]
        rfl
      | refused report =>
        refine .inl ⟨.error (.refused report), fun limit => ?_⟩
        rw [reached limit, fate]
        rfl
      | disconnected =>
        refine .inl ⟨.error brokenConnection, fun limit => ?_⟩
        rw [reached limit, fate]
        rfl
      | silent =>
        refine .inr (.inl fun limit => ?_)
        rw [reached limit, fate]
        rfl
      | crashed =>
        refine .inr (.inr ⟨(session.pass environment).log statement, fun limit => ?_⟩)
        rw [reached limit, fate]
        rfl

/-- So it is with every call that takes time. -/
theorem reply_step (session : Session) {call : Call} (waits : call.waits = true) :
    (∃ answer, ∀ limit, (session.step environment limit call).2 =
        (session.pass environment).reply limit answer) ∨
      (∀ limit, (session.step environment limit call).2 = .late) ∨
      ∃ after, ∀ limit, session.step environment limit call = (after, .crashed) := by
  cases call with
  | freshId => cases waits
  | readClock => cases waits
  | takeTurn =>
    refine .inl ⟨(), fun limit => ?_⟩
    rw [step]
    dsimp only
    unfold reply
    split <;> rfl
  | connect =>
    refine .inl ⟨(session.connect environment).2, fun limit => ?_⟩
    have taken : (session.connect environment).1.elapsed = _ := elapsed_connect session
    rw [step]
    dsimp only
    unfold reply inTime
    rw [taken]
  | send statement => exact reply_send session statement

/-- A call that takes no time does not depend on the limit. -/
theorem step_of_not_waits (session : Session) {call : Call} (prompt : call.waits = false)
    (limit : Option Duration) :
    session.step environment limit call = session.step environment none call := by
  cases call with
  | freshId => rfl
  | readClock => rfl
  | _ => cases prompt

/-- After a wait its time has passed, whatever it has led to. -/
theorem elapsed_step (session : Session) {call : Call} (waits : call.waits = true)
    (limit : Option Duration) :
    (session.step environment limit call).1.elapsed = (session.pass environment).elapsed := by
  cases call with
  | freshId => cases waits
  | readClock => cases waits
  | takeTurn =>
    rw [step]
    dsimp only
    split <;> rfl
  | connect => exact elapsed_connect session
  | send statement => exact elapsed_send limit session statement

theorem elapsed_step_of_not_waits (session : Session) {call : Call} (prompt : call.waits = false)
    (limit : Option Duration) :
    (session.step environment limit call).1.elapsed = session.elapsed := by
  cases call with
  | freshId => rfl
  | readClock => rfl
  | _ => cases prompt

/-- A wait that is over in time is what it is without a limit. -/
theorem step_of_le (session : Session) {call : Call} (waits : call.waits = true)
    (early : (session.pass environment).elapsed ≤ limit.nanos) :
    session.step environment (some limit) call = session.step environment none call := by
  cases call with
  | freshId => cases waits
  | readClock => cases waits
  | takeTurn =>
    rw [step, step]
    dsimp only
    rw [if_pos (inTime_of_le early)]
    rfl
  | connect =>
    have taken : (session.connect environment).1.elapsed ≤ limit.nanos :=
      (elapsed_connect session).le.trans early
    rw [step, step]
    dsimp only
    unfold reply
    rw [if_pos (inTime_of_le taken)]
    rfl
  | send statement => exact send_of_le early

/-- Once a call is answered its time has passed. -/
theorem elapsed_step_of_answer {session : Session} {call : Call} {answer : call.Answer}
    (reply : (session.step environment none call).2 = .answer answer) :
    ((session.step environment none call).1.elapsed : ℕ∞) =
      session.elapsed + session.waitingFor environment call := by
  cases waits : call.waits with
  | false =>
    rw [elapsed_step_of_not_waits session waits, waitingFor, Moment.length, waits]
    exact (add_zero _).symm
  | true =>
    rw [elapsed_step session waits, waitingFor, Moment.length, waits, reply]
    rfl

/-- **A call in time is the call without a limit, and with any other one the program is dropped.** -/
theorem step_within (session : Session) (call : Call) (started : session.elapsed ≤ limit.nanos) :
    (session.elapsed + session.waitingFor environment call ≤ limit.nanos ∧
        session.step environment (some limit) call = session.step environment none call) ∨
      (limit.nanos < session.elapsed + session.waitingFor environment call ∧
        (session.step environment (some limit) call).2 = .late) := by
  cases waits : call.waits with
  | false =>
    have free : session.waitingFor environment call = 0 := by
      rw [waitingFor, Moment.length, waits]
      rfl
    rw [free, add_zero]
    exact .inl ⟨by exact_mod_cast started, step_of_not_waits session waits _⟩
  | true =>
    -- An answer is late by its time alone, silence under every limit, and a breakdown under none.
    obtain ⟨answer, replies⟩ | late | ⟨after, crashes⟩ := @reply_step environment _ session call waits
    · have taken : (session.elapsed : ℕ∞) + session.waitingFor environment call =
          (session.pass environment).elapsed := by
        rw [← elapsed_step_of_answer (replies none), elapsed_step session waits]
      rw [taken]
      by_cases early : (session.pass environment).elapsed ≤ limit.nanos
      · exact .inl ⟨by exact_mod_cast early, step_of_le session waits early⟩
      · refine .inr ⟨by exact_mod_cast not_le.mp early, ?_⟩
        rw [replies, reply, if_neg]
        exact fun inTime => early (inTime_eq_true_iff.mp inTime)
    · have forever : session.waitingFor environment call = ⊤ := by
        rw [waitingFor, Moment.length, waits, late none]
        rfl
      rw [forever, add_top]
      exact .inr ⟨ENat.natCast_lt_top _, late _⟩
    · have ended : session.waitingFor environment call = 0 := by
        rw [waitingFor, Moment.length, waits, crashes none]
        rfl
      rw [ended, add_zero]
      exact .inl ⟨by exact_mod_cast started, by rw [crashes, crashes]⟩

/-! ### Runs within a limit -/

/-- **A limit that the waits keep changes nothing.** -/
theorem run_of_waiting_le (program : Program α) (session : Session)
    (early : session.elapsed + session.waiting environment program ≤ limit.nanos) :
    session.run environment (some limit) program = session.run environment none program := by
  induction program generalizing session with
  | done value => rfl
  | ask call next ih =>
    rw [waiting_ask, ← add_assoc] at early
    have started : session.elapsed ≤ limit.nanos := by
      exact_mod_cast (le_self_add.trans le_self_add).trans early
    obtain ⟨_, same⟩ | ⟨passed, _⟩ := @step_within environment limit _ session call started
    · rw [run_ask, run_ask, same]
      cases reply : (session.step environment none call).2 with
      | answer answer =>
        rw [reply, ← elapsed_step_of_answer reply] at early
        exact ih answer _ early
      | late => rfl
      | crashed => rfl
    · exact absurd (le_self_add.trans early) (not_le.mpr passed)

/-- **A program whose waits take longer than the limit is dropped.** -/
theorem run_of_lt_waiting (program : Program α) (session : Session)
    (started : session.elapsed ≤ limit.nanos)
    (passed : limit.nanos < session.elapsed + session.waiting environment program) :
    (session.run environment (some limit) program).2 = .abandoned := by
  induction program generalizing session with
  | done value =>
    have free : session.waiting environment (.done value) = 0 := rfl
    rw [free, add_zero] at passed
    exact absurd started (not_le.mpr (by exact_mod_cast passed))
  | ask call next ih =>
    rw [waiting_ask, ← add_assoc] at passed
    rw [run_ask]
    obtain ⟨early, same⟩ | ⟨_, late⟩ := @step_within environment limit _ session call started
    · rw [same]
      cases reply : (session.step environment none call).2 with
      | answer answer =>
        rw [reply, ← elapsed_step_of_answer reply] at passed
        rw [← elapsed_step_of_answer reply] at early
        exact ih answer _ (by exact_mod_cast early) passed
      | late =>
        rw [reply, add_zero] at passed
        exact absurd early (not_le.mpr passed)
      | crashed =>
        rw [reply, add_zero] at passed
        exact absurd early (not_le.mpr passed)
    · rw [late]
      rfl

/-- A call to which there is never an answer takes forever. -/
theorem waitingFor_of_late {session : Session} {call : Call}
    (late : (session.step environment none call).2 = .late) :
    session.waitingFor environment call = ⊤ := by
  cases waits : call.waits with
  | false =>
    cases call with
    | freshId => cases late
    | readClock => cases late
    | _ => cases waits
  | true =>
    rw [waitingFor, Moment.length, waits, late]
    rfl

/-- A program is dropped without a limit only if its waits take forever. -/
theorem run_ne_abandoned (program : Program α) (session : Session)
    (ends : session.waiting environment program ≠ ⊤) :
    (session.run environment none program).2 ≠ .abandoned := by
  induction program generalizing session with
  | done value => exact nofun
  | ask call next ih =>
    rw [waiting_ask] at ends
    rw [run_ask]
    cases reply : (session.step environment none call).2 with
    | answer answer =>
      rw [reply] at ends
      exact ih answer _ fun forever => ends (by dsimp only; rw [forever, add_top])
    | late => exact absurd (by rw [waitingFor_of_late reply, top_add]) ends
    | crashed => exact nofun

/-- The waits of a program that finishes are the time that has passed then. -/
theorem elapsed_run_of_finished {value : α} (program : Program α) (session : Session)
    (finished : (session.run environment none program).2 = .finished value) :
    ((session.run environment none program).1.elapsed : ℕ∞) =
      session.elapsed + session.waiting environment program := by
  induction program generalizing session with
  | done result => exact (add_zero _).symm
  | ask call next ih =>
    rw [run_ask] at finished ⊢
    rw [waiting_ask, ← add_assoc]
    cases reply : (session.step environment none call).2 with
    | answer answer =>
      rw [reply] at finished
      dsimp only
      rw [← elapsed_step_of_answer reply]
      exact ih answer _ finished
    | late => rw [reply] at finished; cases finished
    | crashed => rw [reply] at finished; cases finished

/-! ### What is done within a limit -/

/-- In a run nothing is done before it has begun. -/
theorem elapsed_le_of_mem_moments {bound : Option Duration} {program : Program α} {session : Session}
    {moment : Moment} (met : moment ∈ session.moments environment bound program) :
    session.elapsed ≤ moment.before.elapsed := by
  induction program generalizing session with
  | done value => cases met
  | ask call next ih =>
    rw [moments] at met
    obtain rfl | later := List.mem_cons.mp met
    · exact le_rfl
    · cases reply : (session.step environment bound call).2 with
      | answer answer =>
        rw [reply] at later
        have passes : session.elapsed ≤ (session.step environment bound call).1.elapsed := by
          cases waits : call.waits with
          | false => exact (elapsed_step_of_not_waits session waits bound).ge
          | true => exact (Nat.le_add_right _ _).trans (elapsed_step session waits bound).ge
        exact passes.trans (ih answer later)
      | late => rw [reply] at later; cases later
      | crashed => rw [reply] at later; cases later

/-- **Up to the limit a program makes the calls that it makes without one, and after it none.** -/
theorem places_limited (program : Program α) (session : Session)
    (started : session.elapsed ≤ limit.nanos) :
    (session.moments environment (some limit) program).map Moment.place =
      ((session.moments environment none program).filter (Moment.inTime (some limit))).map
        Moment.place := by
  induction program generalizing session with
  | done value => rfl
  | ask call next ih =>
    have now : ∀ reply, Moment.inTime (some limit) ⟨session, call, reply⟩ = true :=
      fun _ => inTime_of_le started
    rw [moments, moments, List.filter_cons_of_pos (now _), List.map_cons, List.map_cons]
    congr 1
    obtain ⟨early, same⟩ | ⟨passed, late⟩ := @step_within environment limit _ session call started
    · rw [same]
      cases reply : (session.step environment none call).2 with
      | answer answer =>
        rw [← elapsed_step_of_answer reply] at early
        exact ih answer _ (by exact_mod_cast early)
      | late => rfl
      | crashed => rfl
    · rw [late]
      -- The program is dropped at this call.  Without the limit it may go on, but only when it has passed.
      cases reply : (session.step environment none call).2 with
      | answer answer =>
        have nothing : ((session.step environment none call).1.moments environment none
            (next answer)).filter (Moment.inTime (some limit)) = [] := by
          refine List.filter_eq_nil_iff.mpr fun moment met inTime => ?_
          rw [← elapsed_step_of_answer reply, Nat.cast_lt] at passed
          have later := elapsed_le_of_mem_moments met
          have early := inTime_eq_true_iff.mp inTime
          omega
        dsimp only
        rw [nothing]
      | late => rfl
      | crashed => rfl

/-- What reaches the database by a call, as a statement. -/
def statement? (session : Session) : Call → Option Statement
  | .send statement =>
    match session.connection, statement.refused? with
    | some _, none => some statement
    | _, _ => none
  | _ => none

theorem statement_event? (bound : Option Duration) (session : Session) (call : Call) :
    (session.event? environment bound call).map Event.statement = session.statement? call := by
  cases call with
  | send statement =>
    rw [event?, statement?]
    cases session.connection with
    | none => rfl
    | some connection => cases statement.refused? <;> rfl
  | _ => rfl

/-- The statements that a run without a limit sends as long as a limit has not passed. -/
def sentWithin (environment : Environment) (bound : Option Duration) (program : Program α)
    (session : Session) : List Statement :=
  ((session.moments environment none program).filter (Moment.inTime bound)).filterMap fun moment =>
    moment.before.statement? moment.call

/-- So these are the statements that a run within the limit sends. -/
theorem sent_run_within (bound : Option Duration) (program : Program α) (session : Session)
    (started : session.inTime bound = true) :
    (session.run environment bound program).1.machine.sent =
      session.machine.sent ++ session.sentWithin environment bound program := by
  have places : (session.moments environment bound program).map Moment.place =
      ((session.moments environment none program).filter (Moment.inTime bound)).map Moment.place := by
    cases bound with
    | none => exact congrArg _ (List.filter_eq_self.mpr fun _ _ => rfl).symm
    | some limit => exact places_limited program session (inTime_eq_true_iff.mp started)
  have statements : ∀ moments : List Moment,
      (moments.filterMap fun moment => moment.before.event? environment bound moment.call).map
          Event.statement =
        (moments.map Moment.place).filterMap fun place => place.1.statement? place.2 := by
    intro moments
    rw [List.map_filterMap, List.filterMap_map]
    congr 1
    funext moment
    exact statement_event? bound moment.before moment.call
  rw [sent_run, events, statements, places, List.filterMap_map]
  rfl

end Session

/-! ### Actions within limits -/

variable [Collation]

namespace Machine

/-- How long an action takes when no limit is set. -/
noncomputable def waiting (environment : Environment) (action : Action α) (machine : Machine) : ℕ∞ :=
  match action with
  | .answered _ => 0
  | .waiting _ program => Session.waiting environment program ⟨machine, none, 0⟩

/-- The statements that an action sends without a limit, as long as a limit has not passed. -/
def sentWithin (environment : Environment) (bound : Option Duration) (action : Action α)
    (machine : Machine) : List Statement :=
  match action with
  | .answered _ => []
  | .waiting _ program => Session.sentWithin environment bound program ⟨machine, none, 0⟩

variable {own : Option (Duration × α)} {outer : Option Duration} {program : Program α}
  {machine : Machine}

theorem run_of_waiting_le
    (early : machine.waiting environment (.waiting own program) ≤ limit.nanos) :
    machine.run environment (some limit) program = machine.run environment none program := by
  unfold run
  rw [Session.run_of_waiting_le program ⟨machine, none, 0⟩ (by simpa [waiting] using early)]

theorem run_of_lt_waiting
    (passed : limit.nanos < machine.waiting environment (.waiting own program)) :
    (machine.run environment (some limit) program).2 = .abandoned :=
  Session.run_of_lt_waiting program ⟨machine, none, 0⟩ (Nat.zero_le _) (by simpa [waiting] using passed)

/-- The waits of a program that finishes are the time that it takes. -/
theorem waiting_of_finished (own : Option (Duration × α)) {value : α}
    (finished : (machine.run environment none program).2 = .finished value) :
    machine.waiting environment (.waiting own program) = program.time environment machine := by
  have elapsed := Session.elapsed_run_of_finished program ⟨machine, none, 0⟩ finished
  rw [Nat.cast_zero, zero_add] at elapsed
  exact elapsed.symm

theorem run_ne_abandoned (ends : machine.waiting environment (.waiting own program) ≠ ⊤) :
    (machine.run environment none program).2 ≠ .abandoned :=
  Session.run_ne_abandoned program ⟨machine, none, 0⟩ ends

/-- An action is performed by running its program within the limit that applies. -/
theorem perform_waiting (own : Option (Duration × α)) (outer : Option Duration) (program : Program α)
    (machine : Machine) :
    machine.perform environment outer (.waiting own program) =
      ((machine.run environment (bound own outer) program).1,
        standIn own outer (machine.run environment (bound own outer) program).2) :=
  perform_eq own outer program machine

/-- A run within a limit sends what it sends without one until the limit has passed, and perhaps a
`ROLLBACK` at its end. -/
theorem sent_run_within (environment : Environment) (own : Option (Duration × α))
    (bound : Option Duration) (program : Program α) (machine : Machine) :
    ∃ parting, (parting = [] ∨ parting = [⟨.rollback, []⟩]) ∧
      (machine.run environment bound program).1.sent =
        machine.sent ++ machine.sentWithin environment bound (.waiting own program) ++ parting := by
  have started : (⟨machine, none, 0⟩ : Session).inTime bound = true := by
    cases bound with
    | none => rfl
    | some limit => exact Session.inTime_of_le (Nat.zero_le _)
  refine ⟨(Session.run environment bound program ⟨machine, none, 0⟩).1.parting.map Event.statement,
    ?_, ?_⟩
  · unfold Session.parting
    split
    · exact .inl rfl
    · split
      · exact .inr rfl
      · exact .inl rfl
  · exact (Session.sent_close_parting _).trans
      (congrArg (· ++ _) (Session.sent_run_within bound program ⟨machine, none, 0⟩ started))

end Machine

end Storefront
