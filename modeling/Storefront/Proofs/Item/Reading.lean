/-
**Pages of items.**

`ItemStore.listOn` is the page that given tables hold.

Main statements:

* `list_keeps`, `page_keeps`: whatever others do, a page is what one state holds;
* `list_solo`, `page_solo`: undisturbed, the page is what the tables hold.
-/

import Storefront.Proofs.Store.Reading

namespace Storefront.ItemStore

variable [Collation] {request : PageRequest} {terms : List OrderTerm}

/-- The page that the tables hold. -/
def listOn (request : PageRequest) (terms : List OrderTerm) (tables : Tables) :
    Except StoreError (Page Item) :=
  Except.mapError .ofDriver do
    let total ← Row.readFirst (Statement.rowsOn ⟨.count .items .all, []⟩ tables) Row.integer?
    let items ← Row.readAll Item.ofRow
      (Statement.rowsOn ⟨.select .items .all terms (some ⟨1, 2⟩), request.windowCells⟩ tables)
    return .ofWindow items total request.size

/-- Whatever others do, a page is what one state holds. -/
theorem list_keeps (request : PageRequest) (terms : List OrderTerm) (tables : Tables) :
    (list request terms).run.Keeps .anywhere (ReadPost (listOn request terms))
      { tables := tables } := by
  have fails : ∀ {α : Type} {next : α → Operation (Page Item)} cause after,
      Operation.Onwards .anywhere (ReadPost (listOn request terms)) next
        (.error (.ofDriver cause)) after :=
    fun cause _ => readPost_ofDriver cause
  unfold list
  rw [Operation.keeps_bind]
  refine Operation.keeps_beginSnapshot fails fun begun onSnapshot => ?_
  rw [Operation.Onwards, Operation.keeps_bind]
  refine Operation.keeps_look_onSnapshot onSnapshot rfl (fun _ fixed => by cases fixed) fails ?_
  intro state counted _ met onSnapshot
  rw [Operation.Onwards, Operation.keeps_bind, Operation.keeps_known]
  cases total : Row.readFirst (Statement.rowsOn ⟨.count .items .all, []⟩ state) Row.integer? with
  | error cause => exact readPost_ofDriver cause
  | ok number =>
    change Operation.Onwards _ _ _ (.ok _) _
    rw [Operation.Onwards, Operation.keeps_bind]
    refine Operation.keeps_look_onSnapshot onSnapshot rfl ?_ fails ?_
    · rintro _ ⟨⟩
      exact met
    intro same selected known met onSnapshot
    cases known _ rfl
    rw [Operation.Onwards, Operation.keeps_bind, Operation.keeps_known]
    cases read : Row.readAll Item.ofRow
        (Statement.rowsOn ⟨.select .items .all terms (some ⟨1, 2⟩), request.windowCells⟩ state) with
    | error cause => exact readPost_ofDriver cause
    | ok items =>
      change Operation.Onwards _ _ _ (.ok _) _
      rw [Operation.Onwards, Operation.keeps_bind]
      refine Operation.keeps_commit_onSnapshot onSnapshot fails fun ended kept => ?_
      rw [Operation.Onwards, Operation.keeps_pure]
      refine fun _ => ⟨state, kept state met, ?_⟩
      rw [listOn, total]
      change Except.mapError _ (Row.readAll _ _ >>= _) = _
      rw [read]
      rfl

/-- Undisturbed, the page is what the tables hold. -/
theorem list_solo {id : Nat → Uuid} {clock : Nat → Int} (solo : Solo) :
    ((list request terms).run.solo id clock solo).1 = listOn request terms solo.tables := by
  unfold list listOn
  obtain ⟨begun, begins, same, looking⟩ := Operation.solo_beginSnapshot
  rw [Operation.solo_bind, begins]
  dsimp only
  obtain ⟨counted, counts, same', looking⟩ :=
    Operation.solo_look (.count .items .all) [] looking rfl rfl
  rw [Operation.solo_bind, counts]
  dsimp only
  rw [Operation.solo_bind, Operation.solo_known, same]
  cases Row.readFirst (Statement.rowsOn ⟨.count .items .all, []⟩ solo.tables) Row.integer? with
  | error cause => rfl
  | ok number =>
    dsimp only [mapError_ok]
    obtain ⟨selected, selects, _, looking⟩ :=
      Operation.solo_look (.select .items .all terms (some ⟨1, 2⟩))
      request.windowCells looking rfl request.refused?_windowCells
    rw [Operation.solo_bind, selects]
    dsimp only
    rw [Operation.solo_bind, Operation.solo_known, same', same]
    change _ = Except.mapError _ (Row.readAll _ _ >>= _)
    cases Row.readAll Item.ofRow
        (Statement.rowsOn ⟨.select .items .all terms (some ⟨1, 2⟩), request.windowCells⟩
          solo.tables) with
    | error cause => rfl
    | ok items =>
      dsimp only [mapError_ok]
      obtain ⟨ended, commits⟩ := Operation.solo_commit looking
      rw [Operation.solo_bind, commits]
      rfl

/-- The answer to a call for a page that the tables hold. -/
def pageOn (request : PageRequest) (tables : Tables) : Except StoreError (Page Item) :=
  match request.sort.check sortable with
  | .error cause => .error (.rejected (.sort cause))
  | .ok sort => listOn request sort.terms tables

theorem page_keeps (request : PageRequest) (tables : Tables) :
    ((inDatabase none).page request).program.Keeps .anywhere (ReadPost (pageOn request))
      { tables := tables } := by
  unfold inDatabase pageOn
  dsimp only
  cases request.sort.check sortable with
  | error cause => exact fun settled => absurd settled (not_settled_rejected (.sort cause))
  | ok sort => exact list_keeps request sort.terms tables

theorem page_solo {id : Nat → Uuid} {clock : Nat → Int} (request : PageRequest) (solo : Solo) :
    (((inDatabase none).page request).program.solo id clock solo).1 = pageOn request solo.tables := by
  unfold inDatabase pageOn
  dsimp only
  cases request.sort.check sortable with
  | error cause => rfl
  | ok sort => exact list_solo solo

end Storefront.ItemStore
