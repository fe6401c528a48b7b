/-
**How runs end.**

Two things that leave a run as it is: to change the answer that it comes to, and to set a limit that
it keeps.  `Program.time` is how long a program takes when no limit is set, and an action is in time
(`Action.InTime`) if it takes no longer than any limit that is set for it.

Main statements:

* `Machine.perform_map`: an action whose answer is changed runs like the action;
* `Machine.run_of_time_le`: a limit that is not passed changes nothing;
* `Machine.perform_of_inTime`: an undisturbed action in time comes to what its program computes.
-/

import Storefront.Proofs.Program.Solo

namespace Storefront

variable {α β γ : Type} {environment : Environment}

/-! ### Changed answers -/

/-- Changes the value that a run has come to. -/
def Ending.map (f : α → β) : Ending α → Ending β
  | .finished value => .finished (f value)
  | .abandoned => .abandoned
  | .crashed => .crashed

theorem Ending.map_eq_finished_iff {f : α → β} {ending : Ending α} {value : β} :
    ending.map f = .finished value ↔ ∃ result, ending = .finished result ∧ f result = value := by
  cases ending with
  | finished result => simp [map]
  | abandoned => simp [map]
  | crashed => simp [map]

/-- Changing an answer twice is changing it once. -/
theorem Action.map_map (f : α → β) (g : β → γ) (action : Action α) :
    (g <$> (f <$> action)) = (fun value => g (f value)) <$> action := by
  cases action with
  | answered value => rfl
  | waiting limit program =>
    rw [map_waiting, map_waiting, map_waiting, Option.map_map, Program.bind_bind]
    rfl

/-- A program whose result is changed runs like the program. -/
theorem Session.run_map [Collation] (f : α → β) (limit : Option Duration) (program : Program α)
    (session : Session) :
    session.run environment limit (program >>= fun result => .done (f result)) =
      ((session.run environment limit program).1, (session.run environment limit program).2.map f) := by
  induction program generalizing session with
  | done value => rfl
  | ask call next ih =>
    rw [Program.ask_bind]
    cases call with
    | freshId => exact ih _ _
    | readClock => exact ih _ _
    | takeTurn =>
      rw [run, run]
      dsimp only
      split
      · exact ih _ _
      · rfl
    | connect =>
      rw [run, run]
      dsimp only
      split
      · exact ih _ _
      · rfl
    | send statement =>
      rw [run, run]
      generalize session.send environment limit statement = sent
      obtain ⟨after, reply⟩ := sent
      cases reply with
      | answer answer => exact ih _ _
      | late => rfl
      | crashed => rfl

theorem Machine.run_map [Collation] (f : α → β) (limit : Option Duration) (program : Program α)
    (machine : Machine) :
    machine.run environment limit (program >>= fun result => .done (f result)) =
      ((machine.run environment limit program).1, (machine.run environment limit program).2.map f) := by
  unfold run
  rw [Session.run_map]

/-- An action whose answer is changed runs like the action. -/
theorem Machine.perform_map [Collation] (f : α → β) (outer : Option Duration) (action : Action α)
    (machine : Machine) :
    machine.perform environment outer (f <$> action) =
      ((machine.perform environment outer action).1,
        (machine.perform environment outer action).2.map f) := by
  cases action with
  | answered value => rfl
  | waiting bound program =>
    rw [Action.map_waiting]
    cases bound with
    | none => exact run_map f outer program machine
    | some bound =>
      obtain ⟨limit, instead⟩ := bound
      unfold perform
      dsimp only [Option.map_some]
      rw [run_map, run_map]
      split
      · generalize machine.run environment (some limit) program = ran
        obtain ⟨after, ending⟩ := ran
        cases ending with
        | finished value => rfl
        | abandoned => rfl
        | crashed => rfl
      · rfl

/-! ### Runs in time -/

/-- How many nanoseconds a program takes on a machine when no limit is set. -/
def Program.time [Collation] (environment : Environment) (program : Program α) (machine : Machine) :
    Nat :=
  (Session.run environment none program ⟨machine, none, 0⟩).1.elapsed

/-- Does the action take no longer than its limit and the one around it? -/
def Action.InTime [Collation] (environment : Environment) (outer : Option Duration)
    (machine : Machine) :
    Action α → Prop
  | .answered _ => True
  | .waiting bound program =>
    (∀ limit ∈ outer, program.time environment machine ≤ limit.nanos) ∧
      ∀ limit ∈ bound, program.time environment machine ≤ limit.1.nanos

namespace Session

variable {limit : Duration}

theorem elapsed_connect (session : Session) :
    (session.connect environment).1.elapsed = (session.pass environment).elapsed := by
  unfold connect
  dsimp only
  split <;> rfl

theorem elapsed_send [Collation] (limit : Option Duration) (session : Session) (statement : Statement) :
    (session.send environment limit statement).1.elapsed = (session.pass environment).elapsed := by
  unfold send
  dsimp only
  split
  · rfl
  · split
    · rfl
    · split <;> rfl

/-- Time only passes. -/
theorem elapsed_le_run [Collation] (limit : Option Duration) (program : Program α) (session : Session) :
    session.elapsed ≤ (session.run environment limit program).1.elapsed := by
  have passes : ∀ session : Session, session.elapsed ≤ (session.pass environment).elapsed :=
    fun session => Nat.le_add_right _ _
  induction program generalizing session with
  | done value => exact Nat.le_refl _
  | ask call next ih =>
    cases call with
    | freshId =>
      rw [run]
      exact ih _ { session with machine := { session.machine with ids := session.machine.ids + 1 } }
    | readClock =>
      rw [run]
      exact ih _
        { session with machine := { session.machine with readings := session.machine.readings + 1 } }
    | takeTurn =>
      rw [run]
      dsimp only
      split
      · exact Nat.le_trans (passes session) (ih () { session.pass environment with
          machine := { (session.pass environment).machine with turnTaken := true } })
      · exact passes session
    | connect =>
      have taken : (session.connect environment).1.elapsed = _ := elapsed_connect session
      have later : session.elapsed ≤ (session.connect environment).1.elapsed := taken ▸ passes session
      rw [run]
      dsimp only
      split
      · exact Nat.le_trans later (ih _ _)
      · exact later
    | send statement =>
      have taken : (session.send environment limit statement).1.elapsed = _ :=
        elapsed_send limit session statement
      rw [run]
      generalize session.send environment limit statement = sent at taken
      obtain ⟨after, reply⟩ := sent
      have later : session.elapsed ≤ after.elapsed := by
        rw [show after.elapsed = (session.pass environment).elapsed from taken]
        exact passes session
      cases reply with
      | answer answer => exact Nat.le_trans later (ih _ _)
      | late => exact later
      | crashed => exact later

theorem inTime_of_le {session : Session} (early : session.elapsed ≤ limit.nanos) :
    session.inTime (some limit) = true := decide_eq_true early

/-- A statement that is answered in time does what it does without a limit. -/
theorem send_of_le [Collation] {session : Session} {statement : Statement}
    (early : (session.pass environment).elapsed ≤ limit.nanos) :
    session.send environment (some limit) statement = session.send environment none statement := by
  have punctual : ∀ after : Session, after.elapsed = (session.pass environment).elapsed →
      after.inTime (some limit) = after.inTime none :=
    fun after same => inTime_of_le (same ▸ early)
  have reply : ∀ {ρ : Type} (after : Session) (value : ρ),
      after.elapsed = (session.pass environment).elapsed →
        after.reply (some limit) value = after.reply none value := by
    intro ρ after value same
    unfold Session.reply
    rw [punctual after same]
  unfold send
  dsimp only
  split
  · exact congrArg (Prod.mk _) (reply _ _ rfl)
  · split
    · exact congrArg (Prod.mk _) (reply _ _ rfl)
    · split
      · have carried : ∀ connection, ((session.pass environment).log statement).carryOut (some limit)
            connection statement =
              ((session.pass environment).log statement).carryOut none connection statement := by
          intro connection
          unfold carryOut
          rw [punctual ((session.pass environment).log statement) rfl]
        rw [carried]
        exact congrArg (Prod.mk _) (reply _ _ rfl)
      · exact congrArg (Prod.mk _) (reply _ _ rfl)
      · exact congrArg (Prod.mk _) (reply _ _ rfl)
      · rfl
      · rfl

/-- A limit that is not passed changes nothing. -/
theorem run_of_elapsed_le [Collation] (program : Program α) (session : Session)
    (early : (session.run environment none program).1.elapsed ≤ limit.nanos) :
    session.run environment (some limit) program = session.run environment none program := by
  induction program generalizing session with
  | done value => rfl
  | ask call next ih =>
    cases call with
    | freshId => exact ih _ _ early
    | readClock => exact ih _ _ early
    | takeTurn =>
      rw [run] at early ⊢
      rw [run]
      have waited : (session.pass environment).elapsed ≤ limit.nanos :=
        Nat.le_trans (elapsed_le_run none (next ()) { session.pass environment with
          machine := { (session.pass environment).machine with turnTaken := true } }) early
      dsimp only
      rw [if_pos (inTime_of_le waited)]
      exact ih _ _ early
    | connect =>
      rw [run] at early ⊢
      rw [run]
      have waited : (session.connect environment).1.elapsed ≤ limit.nanos :=
        Nat.le_trans (elapsed_le_run none (next (session.connect environment).2) _) early
      dsimp only
      rw [if_pos (inTime_of_le waited)]
      exact ih _ _ early
    | send statement =>
      rw [run] at early ⊢
      rw [run]
      have taken : (session.send environment none statement).1.elapsed = _ :=
        elapsed_send none session statement
      have waited : (session.pass environment).elapsed ≤ limit.nanos := by
        rw [← taken]
        generalize session.send environment none statement = sent at early
        obtain ⟨after, reply⟩ := sent
        cases reply with
        | answer answer => exact Nat.le_trans (elapsed_le_run none (next answer) after) early
        | late => exact early
        | crashed => exact early
      rw [send_of_le waited]
      generalize session.send environment none statement = sent at early
      obtain ⟨after, reply⟩ := sent
      cases reply with
      | answer answer => exact ih _ _ early
      | late => rfl
      | crashed => rfl

end Session

variable [Collation]

/-- A limit that is not passed changes nothing. -/
theorem Machine.run_of_time_le {limit : Duration} {program : Program α} {machine : Machine}
    (early : program.time environment machine ≤ limit.nanos) :
    machine.run environment (some limit) program = machine.run environment none program := by
  unfold run
  rw [Session.run_of_elapsed_le program _ early]

/-- An undisturbed action in time comes to what its program computes. -/
theorem Machine.perform_of_inTime (healthy : environment.Healthy) {outer : Option Duration}
    {action : Action α} {machine : Machine} (available : machine.pool = .open)
    (inTime : action.InTime environment outer machine) :
    (machine.perform environment outer action).2 =
      .finished (action.program.solo environment.id environment.clock
        ⟨machine.tables, none, machine.ids, machine.readings⟩).1 := by
  cases action with
  | answered value => rfl
  | waiting bound program =>
    obtain ⟨around, own⟩ := inTime
    obtain ⟨result, _⟩ := run_solo healthy program machine available
    have free : ∀ limit ∈ outer, machine.run environment (some limit) program =
        machine.run environment none program := fun limit set => run_of_time_le (around limit set)
    have outside : machine.run environment outer program = machine.run environment none program := by
      cases outer with
      | none => rfl
      | some limit => exact free limit rfl
    unfold perform
    cases bound with
    | none =>
      dsimp only
      rw [outside]
      exact result
    | some bound =>
      obtain ⟨limit, instead⟩ := bound
      dsimp only
      split
      · rw [run_of_time_le (own _ rfl)]
        generalize machine.run environment none program = ran at result
        obtain ⟨after, ending⟩ := ran
        obtain rfl : ending = _ := result
        rfl
      · rw [outside]
        exact result

/-- Changing the answer takes no time. -/
theorem Action.inTime_of_map {f : α → β} {action : Action α} {outer : Option Duration}
    {machine : Machine} (inTime : (f <$> action).InTime environment outer machine) :
    action.InTime environment outer machine := by
  cases action with
  | answered value => trivial
  | waiting bound program =>
    have same : (program >>= fun result => .done (f result)).time environment machine =
        program.time environment machine := by
      unfold Program.time
      rw [Session.run_map]
    obtain ⟨around, own⟩ := inTime
    rw [same] at around own
    refine ⟨around, fun limit set => ?_⟩
    exact own (limit.1, f limit.2) (Option.mem_map_of_mem _ set)

/-! ### Environments without delays -/

/-- In an environment without delays no time passes. -/
theorem Session.elapsed_run_of_prompt (prompt : ∀ count, environment.delay count = 0)
    (program : Program α) (session : Session) :
    (session.run environment none program).1.elapsed = session.elapsed := by
  have passes : ∀ session : Session, (session.pass environment).elapsed = session.elapsed := by
    intro session
    unfold pass
    dsimp only
    rw [prompt, Nat.add_zero]
  induction program generalizing session with
  | done value => rfl
  | ask call next ih =>
    cases call with
    | freshId => exact ih _ _
    | readClock => exact ih _ _
    | takeTurn => exact (ih _ _).trans (passes session)
    | connect => exact (ih _ _).trans ((elapsed_connect session).trans (passes session))
    | send statement =>
      have taken : (session.send environment none statement).1.elapsed = session.elapsed :=
        (elapsed_send none session statement).trans (passes session)
      rw [run]
      generalize session.send environment none statement = sent at taken
      obtain ⟨after, reply⟩ := sent
      cases reply with
      | answer answer => exact (ih _ _).trans taken
      | late => exact taken
      | crashed => exact taken

/-- Every action is in time where nothing takes time. -/
theorem Action.inTime_of_prompt (prompt : ∀ count, environment.delay count = 0)
    (outer : Option Duration) (machine : Machine) (action : Action α) :
    action.InTime environment outer machine := by
  cases action with
  | answered value => trivial
  | waiting bound program =>
    have instant : program.time environment machine = 0 := Session.elapsed_run_of_prompt prompt program _
    exact ⟨fun _ _ => instant ▸ Nat.zero_le _, fun _ _ => instant ▸ Nat.zero_le _⟩

end Storefront
