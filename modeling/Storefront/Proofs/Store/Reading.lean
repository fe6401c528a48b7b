/-
**Reading in one state.**

What a reading operation finds in given tables is a function of the tables.  `ReadPost` is the
promise of an operation that others disturb: an answer is what this function finds in one of the
states that the statements have met.

A page is read in a transaction whose statements see the state that the first of them saw
(`Operation.OnSnapshot`).

Main statements:

* `Operation.keeps_look`, `Operation.keeps_look_onSnapshot`: a statement that reads beside others;
* `Operation.solo_look`: a statement that reads undisturbed.
-/

import Mathlib.Data.List.Forall2
import Storefront.Proofs.Database.Carried
import Storefront.Proofs.Program.Solo

namespace Storefront

/-! ### Results -/

/-- A result of two readings comes from a result of the first one. -/
theorem bind_eq_ok_iff {ε α β : Type} {first : Except ε α} {next : α → Except ε β} {value : β} :
    (first >>= next) = .ok value ↔ ∃ between, first = .ok between ∧ next between = .ok value := by
  cases first with
  | error cause => simp [bind, Except.bind]
  | ok between => simp [bind, Except.bind]

/-- The first of two readings decides if it fails, and then the second one. -/
theorem bind_eq_error_iff {ε α β : Type} {first : Except ε α} {next : α → Except ε β} {cause : ε} :
    (first >>= next) = .error cause ↔
      first = .error cause ∨ ∃ between, first = .ok between ∧ next between = .error cause := by
  cases first with
  | error other => simp [bind, Except.bind]
  | ok between => simp [bind, Except.bind]

theorem mapError_eq_ok_iff {ε δ α : Type} {sort : ε → δ} {result : Except ε α} {value : α} :
    result.mapError sort = .ok value ↔ result = .ok value := by
  cases result with
  | error cause => simp [mapError_error]
  | ok between => simp [mapError_ok]

theorem mapError_eq_error_iff {ε δ α : Type} {sort : ε → δ} {result : Except ε α} {cause : δ} :
    result.mapError sort = .error cause ↔ ∃ found, result = .error found ∧ sort found = cause := by
  cases result with
  | error found => simp [mapError_error]
  | ok value => simp [mapError_ok]

/-! ### Related lists -/

section Related

variable {α β : Type} {related : α → β → Prop} {first : List α} {second : List β}

/-- What stands in a list is related to something in the other. -/
theorem exists_of_forall₂ (all : List.Forall₂ related first second) {one : α} (member : one ∈ first) :
    ∃ other ∈ second, related one other := by
  induction all with
  | nil => cases member
  | cons here _ ih =>
    obtain rfl | later := List.mem_cons.mp member
    · exact ⟨_, List.mem_cons_self, here⟩
    · obtain ⟨other, inside, there⟩ := ih later
      exact ⟨other, List.mem_cons_of_mem _ inside, there⟩

theorem exists_forall₂ (each : ∀ one ∈ first, ∃ other, related one other) :
    ∃ second, List.Forall₂ related first second := by
  induction first with
  | nil => exact ⟨[], .nil⟩
  | cons one rest ih =>
    obtain ⟨other, here⟩ := each one List.mem_cons_self
    obtain ⟨others, all⟩ := ih fun later member => each later (List.mem_cons_of_mem _ member)
    exact ⟨other :: others, .cons here all⟩

end Related

/-! ### Settled answers -/

/-- Is this what was asked for, or the answer that it does not exist? -/
def Settled {α : Type} : Except StoreError α → Prop
  | .ok _ => True
  | .error cause => cause.isNotFound = true

theorem not_settled_ofDriver {α : Type} (cause : DriverError) :
    ¬ Settled (.error (.ofDriver cause) : Except StoreError α) := by
  unfold Settled StoreError.ofDriver
  cases cause.violatedUnique? with
  | none => exact Bool.false_ne_true
  | some constraint => exact Bool.false_ne_true

theorem not_settled_rejected {α : Type} (cause : Rejection) :
    ¬ Settled (.error (.rejected cause) : Except StoreError α) :=
  Bool.false_ne_true

/-- What a reading operation promises: a settled answer is what one of the states holds that it has
found. -/
def ReadPost {α : Type} (answer : Tables → Except StoreError α) (result : Except StoreError α)
    (view : View) : Prop :=
  Settled result → ∃ tables ∈ view.seen, answer tables = result

theorem readPost_ofDriver {α : Type} {answer : Tables → Except StoreError α} {view : View}
    (cause : DriverError) :
    ReadPost answer (.error (.ofDriver cause)) view :=
  fun settled => absurd settled (not_settled_ofDriver cause)

/-! ### Statements that read -/

namespace Operation

variable [Collation] {view : View} {query : Query} {values : List Cell}
  {post : Except StoreError (List Row) → View → Prop}

/-- A statement that leaves the tables alone, of a program that may be dropped anywhere. -/
theorem keeps_send_reading {connection : Connection} (held : view.connection = some connection)
    (unchanged : ∀ tables, (execute tables connection.transaction ⟨query, values⟩).tables = tables)
    (fails : ∀ cause after, post (.error (.ofDriver cause)) after)
    (carried : ∀ tables effect, view.Permits tables →
      execute tables connection.transaction ⟨query, values⟩ = effect →
      post ((effect.answer.mapError .refused).mapError .ofDriver)
        ((view.on tables).exchanged .empty (some (connection.after ⟨query, values⟩ effect)))) :
    (send .ofDriver query values).run.Keeps .anywhere post view := by
  refine keeps_send_of_unchanged held unchanged ?_ ?_ ?_
  · exact fun _ _ => trivial
  · exact fun tables _ broken => ⟨trivial, fun cause => fails cause _⟩
  · exact fun tables permitted effect found => carried tables effect permitted found

/-- A connection, for a program that may be dropped anywhere. -/
theorem keeps_connect_reading {post : Except StoreError Unit → View → Prop}
    (fails : ∀ cause after, post (.error (.ofDriver cause)) after)
    (connected : ∀ after, after.connection = some {} → post (.ok ()) after) :
    (connect .ofDriver).run.Keeps .anywhere post view := by
  rw [keeps_connect]
  exact fun _ _ => ⟨trivial, connected _ rfl, fun cause => fails cause _⟩

/-- A look at the tables without a transaction finds them as they are. -/
theorem keeps_look (held : view.connection = some {}) (looks : query.looks = true)
    (fails : ∀ cause after, post (.error (.ofDriver cause)) after)
    (found : ∀ after, view.Permits after.tables → after.connection = some {} →
      after.seen = view.seen ++ [after.tables] →
      post (.ok ((⟨query, values⟩ : Statement).rowsOn after.tables)) after) :
    (send .ofDriver query values).run.Keeps .anywhere post view := by
  have effect : ∀ tables, execute tables none ⟨query, values⟩ =
      .found ((⟨query, values⟩ : Statement).rowsOn tables) tables none :=
    fun tables => execute_of_looks looks rfl
  refine keeps_send_reading held (fun tables => by rw [effect]; rfl) fails ?_
  intro tables outcome permitted same
  rw [effect] at same
  subst same
  have guarded : (Connection.after {} ⟨query, values⟩
      (.found ((⟨query, values⟩ : Statement).rowsOn tables) tables none)) = {} := by
    unfold Connection.after Session.guardedAfter
    cases query with
    | count table filter => rfl
    | «exists» table filter => rfl
    | select table filter order window => rfl
    | _ => cases looks
  rw [guarded, View.exchanged_empty]
  exact found { view.on tables with connection := some {}, seen := view.seen ++ [tables] }
    permitted rfl rfl

/-- A connection with a transaction that sees one state, which it has perhaps found already. -/
def OnSnapshot (state : Option Tables) (view : View) : Prop :=
  view.connection = some ⟨some { visibility := .fixed state }, true⟩

/-- A transaction begins whose statements all see the same state. -/
theorem keeps_beginSnapshot {post : Except StoreError Unit → View → Prop}
    (fails : ∀ cause after, post (.error (.ofDriver cause)) after)
    (begun : ∀ after, OnSnapshot none after → post (.ok ()) after) :
    (beginSnapshot .ofDriver).run.Keeps .anywhere post view := by
  unfold beginSnapshot
  rw [keeps_bind]
  refine keeps_connect_reading fails fun connected held => ?_
  rw [Onwards, keeps_bind]
  refine keeps_send_reading held (fun _ => rfl) fails ?_
  rintro _ _ _ rfl
  change Onwards _ _ _ (.ok []) _
  rw [Onwards, keeps_bind]
  refine keeps_send_reading rfl (fun _ => rfl) fails ?_
  rintro _ _ _ rfl
  exact begun _ rfl

/-- A look at the tables in such a transaction. -/
theorem keeps_look_onSnapshot {state : Option Tables} (onSnapshot : OnSnapshot state view)
    (looks : query.looks = true) (known : ∀ tables, state = some tables → tables ∈ view.seen)
    (fails : ∀ cause after, post (.error (.ofDriver cause)) after)
    (found : ∀ tables after, (∀ before, state = some before → tables = before) →
      tables ∈ after.seen →
      OnSnapshot (some tables) after →
      post (.ok ((⟨query, values⟩ : Statement).rowsOn tables)) after) :
    (send .ofDriver query values).run.Keeps .anywhere post view := by
  have effect : ∀ tables, execute tables (some { visibility := .fixed state }) ⟨query, values⟩ =
      .found ((⟨query, values⟩ : Statement).rowsOn (state.getD tables)) tables
        (some { visibility := .fixed state }) := by
    intro tables
    rw [execute_of_looks looks rfl]
    cases state with
    | none => rw [show visible tables (some { visibility := .fixed none }) = tables ++ .empty from rfl,
        Tables.append_empty]; rfl
    | some before => rw [show visible tables (some { visibility := .fixed (some before) }) =
        before ++ .empty from rfl,
        Tables.append_empty]; rfl
  refine keeps_send_reading onSnapshot (fun tables => by rw [effect]; rfl) fails ?_
  intro tables outcome permitted same
  rw [effect] at same
  subst same
  refine found (state.getD tables) _ ?_ ?_ ?_
  · rintro before rfl
    rfl
  · cases state with
    | none => exact List.mem_append_right _ (List.mem_singleton_self _)
    | some before => exact List.mem_append_left _ (known before rfl)
  · have guarded : Session.guardedAfter query true true = true := by
      cases query with
      | commit => cases looks
      | rollback => cases looks
      | _ => rfl
    cases state with
    | none => exact congrArg (fun held => some (Connection.mk _ held)) guarded
    | some before => exact congrArg (fun held => some (Connection.mk _ held)) guarded

/-- The end of such a transaction. -/
theorem keeps_commit_onSnapshot {state : Option Tables}
    {post : Except StoreError Unit → View → Prop} (onSnapshot : OnSnapshot state view)
    (fails : ∀ cause after, post (.error (.ofDriver cause)) after)
    (ended : ∀ after, (∀ tables ∈ view.seen, tables ∈ after.seen) → post (.ok ()) after) :
    (commit .ofDriver).run.Keeps .anywhere post view := by
  unfold commit
  rw [keeps_bind]
  refine keeps_send_reading onSnapshot (fun tables => Tables.append_empty tables) fails ?_
  rintro _ _ _ rfl
  exact ended _ fun _ member => List.mem_append_left _ member

end Operation

/-! ### Undisturbed statements -/

/-- Has the program a connection on which statements see the tables as they are? -/
def Solo.Looking (solo : Solo) : Prop :=
  ∃ connection, solo.connection = some connection ∧
    ∀ transaction, connection.transaction = some transaction →
    transaction.written = .empty ∧ transaction.failed = false ∧
      transaction.base solo.tables = solo.tables

namespace Operation

variable [Collation] {id : Nat → Uuid} {clock : Nat → Int} {solo : Solo} {fail : DriverError → StoreError}

theorem solo_connect_looking :
    ∃ after, (connect fail).run.solo id clock solo = (.ok (), after) ∧ after.tables = solo.tables ∧
      after.Looking :=
  ⟨_, rfl, rfl, _, rfl, nofun⟩

theorem solo_beginSnapshot :
    ∃ after, (beginSnapshot fail).run.solo id clock solo = (.ok (), after) ∧
      after.tables = solo.tables ∧
      after.Looking := by
  refine ⟨_, rfl, rfl, _, rfl, ?_⟩
  rintro _ ⟨⟩
  exact ⟨rfl, rfl, rfl⟩

/-- An undisturbed look at the tables. -/
theorem solo_look (query : Query) (values : List Cell) (looking : solo.Looking)
    (looks : query.looks = true) (accepted : (⟨query, values⟩ : Statement).refused? = none) :
    ∃ after, (send fail query values).run.solo id clock solo =
        (.ok ((⟨query, values⟩ : Statement).rowsOn solo.tables), after) ∧
      after.tables = solo.tables ∧ after.Looking := by
  obtain ⟨⟨transaction, guarded⟩, held, sees⟩ := looking
  rw [solo_send_of_held held accepted]
  cases transaction with
  | none =>
    rw [execute_of_looks looks rfl]
    exact ⟨_, rfl, rfl, _, rfl, nofun⟩
  | some transaction =>
    obtain ⟨nothing, stands, same⟩ := sees transaction rfl
    have seen : visible solo.tables (some transaction) = solo.tables := by
      rw [visible, nothing, Tables.append_empty, same]
    have effect : execute solo.tables (some transaction) ⟨query, values⟩ =
        .found (Statement.rowsOn ⟨query, values⟩ solo.tables) solo.tables (some transaction) := by
      rw [execute_of_looks looks (by exact stands), seen]
    rw [effect]
    refine ⟨_, rfl, rfl, _, rfl, ?_⟩
    rintro _ ⟨⟩
    unfold Transaction.looked
    split
    · exact ⟨nothing, stands, rfl⟩
    · exact ⟨nothing, stands, same⟩

theorem solo_commit (looking : solo.Looking) :
    ∃ after, (commit fail).run.solo id clock solo = (.ok (), after) := by
  obtain ⟨⟨transaction, guarded⟩, held, sees⟩ := looking
  unfold commit
  rw [solo_bind, solo_send_of_held held rfl]
  cases transaction with
  | none => exact ⟨_, rfl⟩
  | some transaction =>
    have stands : ((some transaction).map Transaction.failed).getD false = false :=
      (sees transaction rfl).2.1
    dsimp only
    unfold execute
    rw [stands]
    exact ⟨_, rfl⟩

end Operation

/-- The server takes the values of a window. -/
theorem PageRequest.refused?_windowCells (request : PageRequest) :
    request.windowCells.findSome? Cell.refused? = none := by
  unfold windowCells
  cases request.limit with
  | none => rfl
  | some limit => rfl

end Storefront
