/-
**Databases that take only so many values.**

The values of a statement travel beside it, and there is a largest number of them.
`Environment.withCapacity` is an environment in which a statement with more values is answered with an
error, and every other one meets the fate that it has anyway.  A program none of whose statements has more
values does not notice, and to one whose statement has more it is an error.

Main statements:

* `Machine.perform_congr`: an action runs alike in environments that agree on what it may send;
* `Environment.answers_withCapacity`: a statement with too many values is answered with an error.
-/

import Storefront.Proofs.Program.Confined

namespace Storefront

variable {α : Type} {first second environment : Environment} {limit outer : Option Duration}
  {allowed : Statement → Prop} {capacity : Nat}

/-! ### Environments that agree -/

/-- The environments differ in nothing but in what becomes of statements that are not allowed. -/
structure Environment.AgreesOn (allowed : Statement → Prop) (first second : Environment) : Prop where
  id : first.id = second.id
  clock : first.clock = second.clock
  delay : first.delay = second.delay
  fate : ∀ sent statement, allowed statement → first.fate sent statement = second.fate sent statement

namespace Session

theorem pass_congr (agrees : first.AgreesOn allowed second) (session : Session) :
    session.pass first = session.pass second := by
  unfold pass
  rw [agrees.delay]

/-- A call goes alike unless a statement is sent that is not allowed. -/
theorem step_congr [Collation] (agrees : first.AgreesOn allowed second) (session : Session)
    {call : Call} (permitted : ∀ statement, call = .send statement → allowed statement) :
    session.step first limit call = session.step second limit call := by
  cases call with
  | freshId => rw [step, step, agrees.id]
  | readClock => rw [step, step, agrees.clock]
  | takeTurn => rw [step, step, pass_congr agrees]
  | connect =>
    rw [step, step]
    unfold connect
    rw [pass_congr agrees]
  | send statement =>
    rw [step, step]
    unfold send
    rw [pass_congr agrees, agrees.fate _ _ (permitted statement rfl)]

/-- A program runs alike if it may send nothing on which the environments differ. -/
theorem run_congr [Collation] {program : Program α} (agrees : first.AgreesOn allowed second)
    (sends : program.Sends allowed) (session : Session) :
    session.run first limit program = session.run second limit program := by
  induction program generalizing session with
  | done value => rfl
  | ask call next ih =>
    rw [run_ask, run_ask, step_congr agrees session sends.1]
    cases (session.step second limit call).2 with
    | answer answer => exact ih answer (sends.2 answer) _
    | late => rfl
    | crashed => rfl

end Session

/-- **An action runs alike in environments that agree on what it may send.** -/
theorem Machine.perform_congr [Collation] {action : Action α} (agrees : first.AgreesOn allowed second)
    (sends : action.program.Sends allowed) (machine : Machine) :
    machine.perform first outer action = machine.perform second outer action := by
  cases action with
  | answered value => rfl
  | waiting own program =>
    change program.Sends allowed at sends
    rw [perform_eq, perform_eq, Session.run_congr agrees sends]

/-! ### Capacities -/

/-- A statement with so many values at most. -/
def Statement.Fits (capacity : Nat) (statement : Statement) : Prop := statement.values.length ≤ capacity

/-- The environment, with a database that answers a statement with more values with an error. -/
def Environment.withCapacity (capacity : Nat) (environment : Environment) : Environment :=
  { environment with
    fate := fun sent statement =>
      if statement.values.length ≤ capacity then environment.fate sent statement
      else .refused ⟨none, none, "too many arguments for query"⟩ }

/-- A statement with too many values is not answered but with an error. -/
def Call.AnsweredWithin (capacity : Nat) : (call : Call) → call.Answer → Prop
  | .send statement, answer => statement.Fits capacity ∨ ∃ cause, answer = .error cause
  | _, _ => True

/-- The capacity is not noticed by statements that keep it. -/
theorem Environment.withCapacity_agreesOn :
    (environment.withCapacity capacity).AgreesOn (Statement.Fits capacity) environment where
  id := rfl
  clock := rfl
  delay := rfl
  fate _ _ fits := if_pos fits

theorem Session.eq_of_reply {ρ : Type} {session : Session} {value answer : ρ}
    (reply : session.reply limit value = .answer answer) : value = answer := by
  unfold Session.reply at reply
  split at reply
  · exact Reply.answer.inj reply
  · cases reply

/-- **A statement with too many values is answered with an error, or not at all.** -/
theorem Environment.answers_withCapacity [Collation] :
    (environment.withCapacity capacity).Answers (Call.AnsweredWithin capacity) := by
  intro limit session call answer reply
  cases call with
  | send statement =>
    by_cases fits : statement.Fits capacity
    · exact Or.inl fits
    · right
      change (session.send _ limit statement).2 = _ at reply
      cases held : session.connection with
      | none =>
        rw [Session.send_unconnected held] at reply
        exact ⟨_, (Session.eq_of_reply reply).symm⟩
      | some connection =>
        cases accepted : statement.refused? with
        | some report =>
          rw [Session.send_unaccepted held accepted] at reply
          exact ⟨_, (Session.eq_of_reply reply).symm⟩
        | none =>
          have refused : ∀ sent, (environment.withCapacity capacity).fate sent statement =
              .refused ⟨none, none, "too many arguments for query"⟩ := fun _ => if_neg fits
          rw [Session.send_reached held accepted, refused] at reply
          exact ⟨_, (Session.eq_of_reply reply).symm⟩
  | _ => trivial

end Storefront
