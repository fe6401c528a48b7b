/-
**Calls that wait for no turn.**

Only a call that makes an order asks for the turn to make one: looking up and adding accounts and
items, and reading pages and orders, go on whoever has the turn (`StoreCall.turnless_program`).
-/

import Storefront.Proofs.Program.Turns
import Storefront.Proofs.Store.Calls

namespace Storefront

namespace Operation

variable {α : Type} {fail : DriverError → StoreError}

theorem turnless_firstRow {missing : StoreError} {read : Row → Except DriverError α}
    {rows : List Row} :
    (firstRow fail missing read rows).run.Turnless := by
  cases rows with
  | nil => trivial
  | cons row others => exact turnless_known

theorem turnless_beginSnapshot : (beginSnapshot fail).run.Turnless := by
  refine turnless_bind turnless_connect fun _ => ?_
  refine turnless_bind turnless_send fun _ => ?_
  exact turnless_bind turnless_send fun _ => turnless_pure

theorem turnless_commit :
    (commit fail).run.Turnless := turnless_bind turnless_send fun _ => turnless_pure

/-- One statement about one row. -/
theorem turnless_rowOf {query : Query} {values : List Cell} {missing : StoreError}
    {read : Row → Except DriverError α} :
    (do
      connect .ofDriver
      let rows ← send .ofDriver query values
      firstRow .ofDriver missing read rows : Operation α).run.Turnless := by
  refine turnless_bind turnless_connect fun _ => ?_
  exact turnless_bind turnless_send fun _ => turnless_firstRow

end Operation

open Operation

namespace AccountStore

theorem turnless_find (column : String) (value : Cell) (key : String) :
    (find column value key).run.Turnless :=
  turnless_rowOf

theorem turnless_add (input : NewAccount) : (add input).run.Turnless := by
  refine turnless_bind turnless_readClock fun _ => ?_
  exact turnless_bind turnless_freshId fun _ => turnless_rowOf

end AccountStore

namespace ItemStore

theorem turnless_find (id : Uuid) : (find id).run.Turnless := turnless_rowOf

theorem turnless_add (input : NewItem) : (add input).run.Turnless := by
  refine turnless_bind turnless_readClock fun _ => ?_
  exact turnless_bind turnless_freshId fun _ => turnless_rowOf

theorem turnless_list (request : PageRequest) (terms : List OrderTerm) :
    (list request terms).run.Turnless := by
  refine turnless_bind turnless_beginSnapshot fun _ => ?_
  refine turnless_bind turnless_send fun _ => turnless_bind turnless_known fun _ => ?_
  refine turnless_bind turnless_send fun _ => turnless_bind turnless_known fun _ => ?_
  exact turnless_bind turnless_commit fun _ => turnless_pure

end ItemStore

namespace OrderStore

theorem turnless_withLines (orders : List Order) : (withLines orders).run.Turnless := by
  unfold withLines
  split
  · exact turnless_pure
  · exact turnless_bind turnless_send fun _ => turnless_bind turnless_known fun _ => turnless_pure

theorem turnless_find (id : Uuid) : (find id).run.Turnless := by
  refine turnless_bind turnless_connect fun _ => ?_
  refine turnless_bind turnless_send fun _ => turnless_bind turnless_firstRow fun _ => ?_
  exact turnless_bind (turnless_withLines _) fun _ => turnless_pure

theorem turnless_list (accountId : Uuid) (request : PageRequest) (terms : List OrderTerm) :
    (list accountId request terms).run.Turnless := by
  refine turnless_bind turnless_beginSnapshot fun _ => ?_
  refine turnless_bind turnless_send fun _ => turnless_bind turnless_known fun total => ?_
  split
  · exact turnless_bind turnless_commit fun _ => turnless_pure
  · refine turnless_bind turnless_send fun _ => turnless_bind turnless_known fun _ => ?_
    refine turnless_bind (turnless_withLines _) fun _ => ?_
    exact turnless_bind turnless_commit fun _ => turnless_pure

end OrderStore

/-- Only a call that makes an order asks for the turn to make one. -/
theorem StoreCall.turnless_program {call : StoreCall} (other : call.makesOrder = false) :
    call.program.Turnless := by
  cases call with
  | accountById id => exact Action.turnless_program_map (AccountStore.turnless_find _ _ _)
  | accountByEmail email => exact Action.turnless_program_map (AccountStore.turnless_find _ _ _)
  | createAccount input =>
    refine Action.turnless_program_map ?_
    cases input with
    | none => trivial
    | some input => exact AccountStore.turnless_add input
  | itemById id => exact Action.turnless_program_map (ItemStore.turnless_find id)
  | itemPage request =>
    refine Action.turnless_program_map ?_
    unfold ItemStore.inDatabase
    dsimp only
    cases request.sort.check ItemStore.sortable with
    | error cause => trivial
    | ok sort => exact ItemStore.turnless_list request sort.terms
  | createItem input =>
    refine Action.turnless_program_map ?_
    cases input with
    | none => trivial
    | some input => exact ItemStore.turnless_add input
  | orderById id => exact Action.turnless_program_map (OrderStore.turnless_find id)
  | orderSearch accountId request =>
    refine Action.turnless_program_map ?_
    unfold OrderStore.inDatabase
    dsimp only
    cases request.sort.check OrderStore.sortable with
    | error cause => trivial
    | ok sort => exact OrderStore.turnless_list accountId request sort.terms
  | createOrder input => cases other

end Storefront
