/-
**Reading while others write.**

Calls of the stores run beside each other in any number and in any order of their steps.  A page of
items, a page of orders and an order with its lines are still what one single state of the tables
holds, a state in which the call was under way: the answer is that of the same call run alone on
this state.  And no order is returned without some of its lines, neither of those that were there
then nor of those that are there now.

Main statement: `reading_of_one_state`.
-/

import Storefront.Proofs.Order.Complete
import Storefront.Proofs.Program.Schedule
import Storefront.Proofs.Store.Calls

namespace Storefront

/-- The orders of an answer have all lines that the tables hold for them. -/
def StoreAnswer.CompleteIn (answer : StoreAnswer) (tables : Tables) : Prop :=
  match answer with
  | .order (.ok found) => found.CompleteIn tables
  | .orders (.ok page) => ∀ order ∈ page.elements, order.CompleteIn tables
  | _ => True

/-- What a call finds is complete. -/
theorem StoreCall.complete_of_solo [Collation] {call : StoreCall} {answer : StoreAnswer}
    {earlier later : Tables} (reads : call.reads = true) (distinct : earlier.Distinct)
    (grown : earlier.Grown later)
    (solo : ∀ id clock (solo : Solo), solo.tables = earlier →
      (call.program.solo id clock solo).1 = answer) :
    answer.CompleteIn later := by
  have found := solo .numbered (fun _ => 0) { tables := earlier } rfl
  cases call with
  | itemPage request =>
    obtain rfl := (congrArg Prod.fst Action.solo_program_map).symm.trans found
    trivial
  | orderById id =>
    obtain rfl := (congrArg Prod.fst Action.solo_program_map).symm.trans found
    rw [show (((OrderStore.inDatabase none).byId id).program.solo .numbered (fun _ => 0)
      { tables := earlier }).1 =
      OrderStore.findOn id earlier from OrderStore.find_solo id _]
    cases held : OrderStore.findOn id earlier with
    | error cause => trivial
    | ok order => exact (OrderStore.complete_of_findOn held).grown grown
  | orderSearch accountId request =>
    obtain rfl := (congrArg Prod.fst Action.solo_program_map).symm.trans found
    rw [OrderStore.search_solo accountId request]
    cases held : OrderStore.searchOn accountId request earlier with
    | error cause => trivial
    | ok page => exact fun order member =>
        (OrderStore.complete_of_searchOn distinct held order member).grown grown
  | _ => cases reads

section Reading

variable {ι : Type} [DecidableEq ι] {calls : ι → StoreCall} {tables : Tables} {size : Nat}
  {finish : System ι StoreAnswer} {who : ι} {answer : StoreAnswer}

/-- **An answer is what one state holds.** However the calls are run beside each other, a settled
answer of a reading call is the one that the call gives when it is run alone on tables that were
there while it was under way; and its orders have all of their lines, then and now. -/
theorem reading_of_one_state [Collation] (run : (System.ofCalls calls tables size).Run finish)
    (reads : (calls who).reads = true) (returned : (finish.stages who).Returned answer)
    (settled : answer.Settled) :
    ∃ middle : System ι StoreAnswer,
      (System.ofCalls calls tables size).Run middle ∧ middle.Run finish ∧ (middle.stages who).Running ∧
      (∀ (environment : Environment) (machine : Machine), environment.Healthy → machine.pool = .open →
        machine.tables = middle.tables →
          (machine.perform environment none ((calls who).action none)).2 = .finished answer) ∧
      (tables.Distinct → answer.CompleteIn middle.tables ∧ answer.CompleteIn finish.tables) := by
  have sane := System.sane_ofCalls run
  obtain ⟨view, follows⟩ := sane.follows who
  obtain ⟨state, met, solo⟩ :=
    StoreCall.exists_of_post reads (follows.post_of_returned returned) settled
  obtain ⟨middle, before, after, running, rfl, grown⟩ := follows.met state met
  refine ⟨middle, before, after, running, ?_, fun distinct => ?_⟩
  · intro environment machine healthy available same
    obtain ⟨result, _⟩ := Machine.perform_solo healthy (calls who).unlimited_action machine available
    rw [result]
    exact congrArg Ending.finished (solo _ _ ⟨machine.tables, none, machine.ids, machine.readings⟩ same)
  · have early : middle.tables.Distinct :=
      distinct.grown (System.sane_ofCalls before).grown
    exact ⟨StoreCall.complete_of_solo reads early Relation.ReflTransGen.refl solo,
      StoreCall.complete_of_solo reads early grown solo⟩

end Reading

/-- Two calls: one makes an order, the other one reads the orders of the account. -/
def StoreCall.sample (writes : Bool) : StoreCall :=
  if writes then .createOrder (some .sample) else .orderSearch (.numbered 1) .unpaged

/-- The reading call counts the orders, the other call makes one, and then the reading call goes
on. -/
def Beat.sample : List (Beat Bool) :=
  List.replicate 5 ⟨false, 0⟩ ++ (List.range 15).map (fun count => ⟨true, 10 + count⟩) ++
    List.replicate 2 ⟨false, 0⟩

theorem reading_of_one_state_sample :
    ∃ middle finish : System Bool StoreAnswer, middle.Run finish ∧ finish.tables.orders.length = 1 ∧
      ∀ machine : Machine, machine.pool = .open → machine.tables = middle.tables →
        (machine.perform .sample none ((StoreCall.sample false).action none)).2 =
          .finished (.orders (.ok .empty)) := by
  have played : ∃ finish, (System.ofCalls StoreCall.sample .sample 2).play? Beat.sample = some finish ∧
      finish.tables.orders.length = 1 ∧ (finish.stages false).Returned (.orders (.ok .empty)) :=
    ⟨_, rfl, rfl, Or.inl ⟨_, rfl⟩⟩
  obtain ⟨finish, played, one, returned⟩ := played
  obtain ⟨middle, _, after, _, same, _⟩ :=
    reading_of_one_state (System.play?_run played)
      (show (StoreCall.sample false).reads = true from rfl) returned trivial
  exact ⟨middle, finish, after, one, fun machine =>
    same .sample machine (Environment.healthy_smooth _ _)⟩

end Storefront
