/-
**What the stores do not refuse.**

An error of a store either refuses a request (`StoreError.Refuses`) or says that something has gone
wrong.  An operation that has begun never refuses: whatever the database answers it, its errors are
failures (`StoreError.Arises.not_refuses`).  So a call of a store that refuses what it is asked for does so
at once, before anything is asked of the database.

Main statement: `StoreCall.awaits_acceptance` — whatever a call has to wait for, it is no refusal.
-/

import Storefront.Proofs.Store.Conduct

namespace Storefront

/-- The error refuses what was asked for; the database has no part in it. -/
def StoreError.Refuses : StoreError → Prop
  | .nilEntity | .rejected _ => True
  | _ => False

/-- No failure of the database is a refusal. -/
theorem StoreError.not_refuses_ofDriver (cause : DriverError) : ¬ (ofDriver cause).Refuses := by
  unfold ofDriver
  cases cause.violatedUnique? with
  | none => exact id
  | some constraint => exact id

/-- Nor is any other error of an operation that has begun. -/
theorem StoreError.Arises.not_refuses {fail : DriverError → StoreError} {cause : StoreError}
    (arises : cause.Arises fail) (fails : ∀ found, ¬ (fail found).Refuses) : ¬ cause.Refuses := by
  cases arises with
  | failed found => exact fails found
  | missing entity key => exact id
  | overdue limit => exact id

theorem StoreCall.not_refuses_failure (call : StoreCall) (cause : DriverError) :
    ¬ (call.failure cause).Refuses := by
  unfold failure
  split
  · exact id
  · exact StoreError.not_refuses_ofDriver cause

/-! ### Actions and calls -/

/-- Every result that an action has to wait for is like this, and so is the answer that stands in for
it. -/
def Action.Awaits {α : Type} (post : α → Prop) : Action α → Prop
  | .answered _ => True
  | .waiting bound program =>
    (∀ duration instead, bound = some (duration, instead) → post instead) ∧
      program.Yields (fun _ => True) post

theorem Action.Awaits.mono {α : Type} {post weaker : α → Prop} {action : Action α}
    (awaits : action.Awaits post) (implies : ∀ value, post value → weaker value) :
    action.Awaits weaker := by
  cases action with
  | answered value => trivial
  | waiting bound program =>
    exact ⟨fun duration instead same => implies instead (awaits.1 duration instead same),
      awaits.2.mono implies⟩

theorem Action.awaits_map {α β : Type} {post : β → Prop} {f : α → β} {action : Action α}
    (awaits : action.Awaits fun value => post (f value)) : (f <$> action).Awaits post := by
  cases action with
  | answered value => trivial
  | waiting bound program =>
    refine ⟨fun duration instead same => ?_, Program.yields_bind.mpr awaits.2⟩
    obtain ⟨⟨own, value⟩, set, same⟩ := Option.map_eq_some_iff.mp same
    cases same
    exact awaits.1 duration value set

/-- What a conducted action has to wait for is a failure, or as has been promised. -/
theorem Action.Conducted.awaits {α : Type} {allowed : Statement → Prop} {fail : DriverError → α}
    {post weaker : α → Prop} {action : Action α} (conducted : action.Conducted allowed fail post)
    (fails : ∀ cause, weaker (fail cause)) (implies : ∀ value, post value → weaker value) :
    action.Awaits weaker := by
  cases action with
  | answered value => trivial
  | waiting bound program =>
    exact ⟨fun duration instead same => implies instead (conducted.1 _ same),
      conducted.2.yields fails fun _ value kept => implies value kept⟩

/-- The answer does not refuse what was asked for. -/
def StoreAnswer.Accepts (answer : StoreAnswer) : Prop := ∀ cause ∈ answer.error?, ¬ cause.Refuses

/-- **Whatever a call has to wait for, it is no refusal.** -/
theorem StoreCall.awaits_acceptance (limit : Option Duration) (call : StoreCall) :
    (call.action limit).Awaits StoreAnswer.Accepts := by
  refine (call.action_conducted limit).awaits (fun cause found said => ?_)
    fun answer arises cause said => (arises cause said).not_refuses call.not_refuses_failure
  have same : (call.failed (call.failure cause)).error? = some (call.failure cause) := by
    cases call <;> rfl
  obtain rfl := Option.some.inj (same.symm.trans said)
  exact call.not_refuses_failure cause

end Storefront
