/-
**Programs and what they can be answered.**

`Program.Confined possible allowed post` says what a program does that is only answered as is possible:
it sends allowed statements only, and every result that it comes to is like this.  So it tells more of a
program than that it sends allowed statements whatever it is answered (`Program.Sends`).  An environment
answers in a way (`Environment.Answers`) if it never gives another answer to a call.

Main statements:

* `Operation.confined_bind`: one operation after another;
* `Machine.perform_confined`: what an action sends and what it comes to in an environment that answers
  like that.
-/

import Storefront.Proofs.Program.Results
import Storefront.Proofs.Program.Steps

namespace Storefront

variable {α β : Type} {possible : (call : Call) → call.Answer → Prop} {allowed : Statement → Prop}

/-! ### Programs -/

/-- As long as the program is answered as is possible it sends allowed statements only, and its result is
like this. -/
def Program.Confined (possible : (call : Call) → call.Answer → Prop) (allowed : Statement → Prop)
    (post : α → Prop) : Program α → Prop
  | .done value => post value
  | .ask call next =>
    (∀ statement, call = .send statement → allowed statement) ∧
      ∀ answer, possible call answer → Confined possible allowed post (next answer)

namespace Program

/-- A program that is confined whatever it is answered sends allowed statements only. -/
theorem Confined.sends {post : α → Prop} {program : Program α}
    (confined : program.Confined (fun _ _ => True) allowed post) : program.Sends allowed := by
  induction program with
  | done value => trivial
  | ask call next ih => exact ⟨confined.1, fun answer => ih answer (confined.2 answer trivial)⟩

theorem confined_bind {post : β → Prop} {program : Program α} {next : α → Program β} :
    (program >>= next).Confined possible allowed post ↔
      program.Confined possible allowed fun value => (next value).Confined possible allowed post := by
  induction program with
  | done value => exact Iff.rfl
  | ask call rest ih =>
    exact and_congr_right fun _ => forall_congr' fun answer => imp_congr_right fun _ => ih answer

end Program

namespace Operation

variable {fail : DriverError → StoreError}

/-- One operation after another: what is to be shown of the rest, or of the failure. -/
theorem confined_bind {post : Except StoreError β → Prop} {operation : Operation α}
    {next : α → Operation β} :
    (operation >>= next).run.Confined possible allowed post ↔
      operation.run.Confined possible allowed fun result =>
        (proceed next result).Confined possible allowed post := by
  rw [run_bind, Program.confined_bind]

theorem confined_freshId {post : Except StoreError Uuid → Prop} (goes : ∀ id, post (.ok id)) :
    freshId.run.Confined possible allowed post :=
  ⟨nofun, fun id _ => goes id⟩

theorem confined_readClock {post : Except StoreError Timestamp → Prop} (goes : ∀ now, post (.ok now)) :
    readClock.run.Confined possible allowed post :=
  ⟨nofun, fun now _ => goes now⟩

theorem confined_takeTurn {post : Except StoreError Unit → Prop} (goes : post (.ok ())) :
    takeTurn.run.Confined possible allowed post :=
  ⟨nofun, fun _ _ => goes⟩

theorem confined_connect {post : Except StoreError Unit → Prop} (goes : post (.ok ()))
    (fails : ∀ cause, post (.error cause)) : (connect fail).run.Confined possible allowed post := by
  refine ⟨nofun, fun answer _ => ?_⟩
  cases answer with
  | ok given => exact goes
  | error cause => exact fails _

theorem confined_known {post : Except StoreError α → Prop} {result : Except DriverError α}
    (goes : ∀ value, post (.ok value)) (fails : ∀ cause, post (.error cause)) :
    (known fail result).run.Confined possible allowed post := by
  cases result with
  | ok value => exact goes value
  | error cause => exact fails _

theorem confined_send {post : Except StoreError (List Row) → Prop} {query : Query} {values : List Cell}
    (permitted : allowed ⟨query, values⟩)
    (goes : ∀ rows, possible (.send ⟨query, values⟩) (.ok rows) → post (.ok rows))
    (fails : ∀ cause, post (.error cause)) :
    (send fail query values).run.Confined possible allowed post := by
  refine ⟨?_, fun answer given => ?_⟩
  · rintro _ ⟨⟩
    exact permitted
  · cases answer with
    | ok rows => exact goes rows given
    | error cause => exact fails _

end Operation

/-! ### Runs -/

variable [Collation]

/-- Every answer that the environment gives to a call is a possible one. -/
def Environment.Answers (possible : (call : Call) → call.Answer → Prop) (environment : Environment) :
    Prop :=
  ∀ (limit : Option Duration) (session : Session) (call : Call) (answer : call.Answer),
    (session.step environment limit call).2 = .answer answer → possible call answer

section Runs

variable {environment : Environment} {limit outer : Option Duration} {post : α → Prop}

/-- A call brings nothing to the database but the statement that is sent. -/
theorem Session.step_sentSince (session : Session) {call : Call}
    (permitted : ∀ statement, call = .send statement → allowed statement) :
    session.machine.SentSince allowed (session.step environment limit call).1.machine := by
  cases call with
  | freshId => exact .of_same rfl
  | readClock => exact .of_same rfl
  | takeTurn =>
    rw [step]
    dsimp only
    split <;> exact .of_same rfl
  | connect => exact .of_same (connect_cases rfl).2.1
  | send statement => exact session.send_sentSince (permitted statement rfl)

/-- A program that is answered as is possible sends allowed statements only, and comes to such a
result. -/
theorem Session.run_confined {program : Program α} (answers : environment.Answers possible)
    (confined : program.Confined possible allowed post) (session : Session) :
    session.machine.SentSince allowed (session.run environment limit program).1.machine ∧
      ∀ value, (session.run environment limit program).2 = .finished value → post value := by
  induction program generalizing session with
  | done value =>
    refine ⟨.of_same rfl, fun result finished => ?_⟩
    obtain rfl : value = result := Ending.finished.inj finished
    exact confined
  | ask call next ih =>
    have sent : session.machine.SentSince allowed (session.step environment limit call).1.machine :=
      session.step_sentSince confined.1
    rw [run_ask]
    cases reply : (session.step environment limit call).2 with
    | answer answer =>
      have rest := ih answer (confined.2 answer (answers limit session call answer reply))
        (session.step environment limit call).1
      exact ⟨sent.trans rest.1, rest.2⟩
    | late => exact ⟨sent, nofun⟩
    | crashed => exact ⟨sent, nofun⟩

/-- **What an action sends and what it comes to**, in an environment that answers as is possible. -/
theorem Machine.perform_confined {action : Action α} (answers : environment.Answers possible)
    (confined : action.program.Confined possible allowed post)
    (standIn : ∀ value ∈ action.standIn?, post value) (rollback : allowed ⟨.rollback, []⟩)
    (machine : Machine) :
    machine.SentSince allowed (machine.perform environment outer action).1 ∧
      ∀ value, (machine.perform environment outer action).2 = .finished value → post value := by
  cases action with
  | answered value =>
    refine ⟨.of_same rfl, fun result finished => ?_⟩
    obtain rfl : value = result := Ending.finished.inj finished
    exact confined
  | waiting own program =>
    have ran := @Session.run_confined α possible allowed _ environment (Machine.bound own outer) post
      program answers confined ⟨machine, none, 0⟩
    rw [perform_eq]
    refine ⟨.trans ran.1 (Session.close_sentSince _ rollback), fun value finished => ?_⟩
    dsimp only at finished
    generalize (Session.run environment (bound own outer) program ⟨machine, none, 0⟩).2 = ending
      at finished ran
    cases ending with
    | finished result => exact ran.2 value finished
    | crashed => cases finished
    | abandoned =>
      cases own with
      | none => cases finished
      | some own =>
        obtain ⟨limit, instead⟩ := own
        unfold Machine.standIn at finished
        dsimp only at finished
        split at finished
        · exact standIn value (congrArg some (Ending.finished.inj finished))
        · cases finished

end Runs

end Storefront
