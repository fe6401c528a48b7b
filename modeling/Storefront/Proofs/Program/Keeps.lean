/-
**Programs that keep a promise.**

`Program.Keeps cut post program view` says that the program, started with this view, obeys the rule
for statements (`Statement.Lawful`) whatever others do in the meantime (`View.Permits`), whatever
becomes of its statements (`Exchange`), and whichever identifiers and readings of the clock it is
given; that `cut` holds wherever it stands, and after a statement whose answer nobody waits for any
more; and that `post` holds of its result.  So `cut` holds wherever the program can be dropped.

Main statements:

* `keeps_bind`: one program after another;
* `keeps_send_of_held`, `keeps_send_of_unchanged`: a statement on a connection.
-/

import Storefront.Proofs.Program.View

namespace Storefront

/-- What holds where a program stands, or after a statement that has been carried out without being
heard of. -/
abbrev Cut := Option Statement → View → Prop

/-- The program may be dropped anywhere. -/
def Cut.anywhere : Cut := fun _ _ => True

/-- Whatever the answer to a call is, the program can be dropped there and go on. -/
def Call.Keeps [Collation] (cut : Cut) (view : View) : (call : Call) →
    (call.Answer → View → Prop) → Prop
  | .freshId, next => cut none view ∧ ∀ id, next id view
  | .readClock, next => cut none view ∧ ∀ nanos, next (.ofClock nanos) view
  | .takeTurn, next => cut none view ∧ next () { view with turn := true }
  | .connect, next =>
    cut none view ∧ next (.ok ()) { view with connection := some {} } ∧
      ∀ cause, next (.error cause) view
  | .send statement, next =>
    cut none view ∧
      ∀ answer rows connection, Exchange statement view.tables view.connection answer rows connection →
        statement.Lawful view rows ∧ cut (some statement) (view.exchanged rows connection) ∧
          next answer (view.exchanged rows connection)

/-- The program keeps its promise whatever happens. -/
def Program.Keeps [Collation] {α : Type} (cut : Cut) (post : α → View → Prop) :
    Program α → View → Prop
  | .done value, view => post value view
  | .ask call next, view =>
    ∀ tables, view.Permits tables →
      call.Keeps cut (view.on tables) fun answer after => Keeps cut post (next answer) after

/-- Any result will do. -/
def Program.anyResult {α : Type} : α → View → Prop := fun _ _ => True

section Rules

variable {α β : Type} {cut : Cut} {post : α → View → Prop} {view : View}

theorem Call.Keeps.mono [Collation] {weaker : Cut} {call : Call}
    {first second : call.Answer → View → Prop} (keeps : call.Keeps cut view first)
    (cuts : ∀ statement view, cut statement view → weaker statement view)
    (implies : ∀ answer view, first answer view → second answer view) :
    call.Keeps weaker view second := by
  cases call with
  | freshId => exact ⟨cuts _ _ keeps.1, fun id => implies _ _ (keeps.2 id)⟩
  | readClock => exact ⟨cuts _ _ keeps.1, fun nanos => implies _ _ (keeps.2 nanos)⟩
  | takeTurn => exact ⟨cuts _ _ keeps.1, implies _ _ keeps.2⟩
  | connect =>
    exact ⟨cuts _ _ keeps.1, implies _ _ keeps.2.1, fun cause => implies _ _ (keeps.2.2 cause)⟩
  | send statement =>
    refine ⟨cuts _ _ keeps.1, fun answer rows connection exchange => ?_⟩
    obtain ⟨lawful, lost, goes⟩ := keeps.2 answer rows connection exchange
    exact ⟨lawful, cuts _ _ lost, implies _ _ goes⟩

/-- Wherever a program waits it can be dropped. -/
theorem Call.Keeps.standing [Collation] {call : Call} {next : call.Answer → View → Prop}
    (keeps : call.Keeps cut view next) :
    cut none view := by
  cases call with
  | freshId => exact keeps.1
  | readClock => exact keeps.1
  | takeTurn => exact keeps.1
  | connect => exact keeps.1
  | send statement => exact keeps.1

namespace Program

variable [Collation]

theorem keeps_ask {call : Call} {next : call.Answer → Program α} :
    (ask call next).Keeps cut post view ↔
      ∀ tables, view.Permits tables →
        call.Keeps cut (view.on tables) fun answer after => (next answer).Keeps cut post after :=
  Iff.rfl

/-- A promise may be weakened. -/
theorem Keeps.mono {weaker : Cut} {other : α → View → Prop} {program : Program α}
    (keeps : program.Keeps cut post view)
    (cuts : ∀ statement view, cut statement view → weaker statement view)
    (implies : ∀ value view, post value view → other value view) :
    program.Keeps weaker other view := by
  induction program generalizing view with
  | done value => exact implies value view keeps
  | ask call next ih =>
    intro tables permitted
    exact (keeps tables permitted).mono cuts fun answer after goes => ih answer goes

/-- One program after another. -/
theorem keeps_bind {post : β → View → Prop} {program : Program α} {next : α → Program β} :
    (program >>= next).Keeps cut post view ↔
      program.Keeps cut (fun value view => (next value).Keeps cut post view) view := by
  induction program generalizing view with
  | done value => exact Iff.rfl
  | ask call rest ih =>
    rw [ask_bind, keeps_ask, keeps_ask]
    refine forall_congr' fun tables => imp_congr_right fun _ => ⟨fun keeps => ?_, fun keeps => ?_⟩
    · exact keeps.mono (fun _ _ kept => kept) fun answer after goes => (ih answer).mp goes
    · exact keeps.mono (fun _ _ kept => kept) fun answer after goes => (ih answer).mpr goes

end Program

namespace Operation

variable {post : Except StoreError α → View → Prop} {fail : DriverError → StoreError}

/-- What is promised of the rest of an operation, or of its failure. -/
def Onwards [Collation] (cut : Cut) (post : Except StoreError β → View → Prop)
    (next : α → Operation β) :
    Except StoreError α → View → Prop
  | .ok value, view => (next value).run.Keeps cut post view
  | .error cause, view => post (.error cause) view

/-- The rest of an operation; an operation that has failed does not go on. -/
def proceed (next : α → Operation β) : Except StoreError α → Program (Except StoreError β)
  | .ok value => (next value).run
  | .error cause => .done (.error cause)

theorem run_bind (operation : Operation α) (next : α → Operation β) :
    (operation >>= next).run = operation.run >>= proceed next := by
  refine congrArg (operation.run >>= ·) (funext fun result => ?_)
  cases result <;> rfl

variable [Collation]

/-- One operation after another. -/
theorem keeps_bind {post : Except StoreError β → View → Prop} {operation : Operation α}
    {next : α → Operation β} :
    (operation >>= next).run.Keeps cut post view ↔
      operation.run.Keeps cut (Onwards cut post next) view := by
  rw [run_bind, Program.keeps_bind]
  refine ⟨fun keeps => ?_, fun keeps => ?_⟩
  all_goals
    refine Program.Keeps.mono keeps (fun _ _ kept => kept) fun result after goes => ?_
    cases result <;> exact goes

theorem keeps_pure {value : α} :
    (pure value : Operation α).run.Keeps cut post view ↔ post (.ok value) view := Iff.rfl

theorem keeps_known {result : Except DriverError α} :
    (known fail result).run.Keeps cut post view ↔ post (result.mapError fail) view := Iff.rfl

theorem keeps_freshId {post : Except StoreError Uuid → View → Prop} :
    freshId.run.Keeps cut post view ↔
      ∀ tables, view.Permits tables →
        cut none (view.on tables) ∧ ∀ id, post (.ok id) (view.on tables) := Iff.rfl

theorem keeps_readClock {post : Except StoreError Timestamp → View → Prop} :
    readClock.run.Keeps cut post view ↔
      ∀ tables, view.Permits tables →
        cut none (view.on tables) ∧ ∀ nanos, post (.ok (.ofClock nanos)) (view.on tables) := Iff.rfl

theorem keeps_takeTurn {post : Except StoreError Unit → View → Prop} :
    takeTurn.run.Keeps cut post view ↔
      ∀ tables, view.Permits tables →
        cut none (view.on tables) ∧ post (.ok ()) { view.on tables with turn := true } := Iff.rfl

theorem keeps_connect {post : Except StoreError Unit → View → Prop} :
    (connect fail).run.Keeps cut post view ↔
      ∀ tables, view.Permits tables →
        cut none (view.on tables) ∧ post (.ok ()) { view.on tables with connection := some {} } ∧
          ∀ cause, post (.error (fail cause)) (view.on tables) := Iff.rfl

theorem keeps_send {query : Query} {values : List Cell}
    {post : Except StoreError (List Row) → View → Prop} :
    (send fail query values).run.Keeps cut post view ↔
      ∀ tables, view.Permits tables →
        cut none (view.on tables) ∧
          ∀ answer rows connection, Exchange ⟨query, values⟩ tables view.connection answer
            rows connection →
            (⟨query, values⟩ : Statement).Lawful (view.on tables) rows ∧
              cut (some ⟨query, values⟩) ((view.on tables).exchanged rows connection) ∧
                post (answer.mapError fail) ((view.on tables).exchanged rows connection) := Iff.rfl

/-- A statement on a connection either fails without a trace or is carried out. -/
theorem keeps_send_of_held {query : Query} {values : List Cell}
    {post : Except StoreError (List Row) → View → Prop} {connection : Connection}
    (held : view.connection = some connection)
    (waiting : ∀ tables, view.Permits tables → cut none (view.on tables))
    (failing : ∀ tables, view.Permits tables → ∀ broken,
      cut (some ⟨query, values⟩) ((view.on tables).exchanged .empty broken) ∧
        ∀ cause, post (.error (fail cause)) ((view.on tables).exchanged .empty broken))
    (carried : ∀ tables, view.Permits tables → ∀ rows effect,
      execute tables connection.transaction ⟨query, values⟩ = effect →
      effect.tables = tables ++ rows →
        (⟨query, values⟩ : Statement).Lawful (view.on tables) rows ∧
          cut (some ⟨query, values⟩)
            ((view.on tables).exchanged rows (some (connection.after ⟨query, values⟩ effect))) ∧
          post ((effect.answer.mapError .refused).mapError fail)
            ((view.on tables).exchanged rows (some (connection.after ⟨query, values⟩ effect)))) :
    (send fail query values).run.Keeps cut post view := by
  rw [keeps_send]
  intro tables permitted
  refine ⟨waiting tables permitted, fun answer rows after exchange => ?_⟩
  rw [held] at exchange
  cases exchange with
  | carriedOut added => exact carried tables permitted rows _ rfl added
  | refused report =>
    obtain ⟨lost, fails⟩ := failing tables permitted (some connection.failed)
    exact ⟨Or.inl rfl, lost, fails (.refused report)⟩
  | broken =>
    obtain ⟨lost, fails⟩ := failing tables permitted none
    exact ⟨Or.inl rfl, lost, fails brokenConnection⟩

/-- A statement that leaves the tables alone. -/
theorem keeps_send_of_unchanged {query : Query} {values : List Cell}
    {post : Except StoreError (List Row) → View → Prop} {connection : Connection}
    (held : view.connection = some connection)
    (unchanged : ∀ tables, (execute tables connection.transaction ⟨query, values⟩).tables = tables)
    (waiting : ∀ tables, view.Permits tables → cut none (view.on tables))
    (failing : ∀ tables, view.Permits tables → ∀ broken,
      cut (some ⟨query, values⟩) ((view.on tables).exchanged .empty broken) ∧
        ∀ cause, post (.error (fail cause)) ((view.on tables).exchanged .empty broken))
    (carried : ∀ tables, view.Permits tables → ∀ effect,
      execute tables connection.transaction ⟨query, values⟩ = effect →
        post ((effect.answer.mapError .refused).mapError fail)
          ((view.on tables).exchanged .empty (some (connection.after ⟨query, values⟩ effect)))) :
    (send fail query values).run.Keeps cut post view := by
  refine keeps_send_of_held held waiting failing fun tables permitted rows effect found added => ?_
  have same : effect.tables = tables := found ▸ unchanged tables
  have nothing : rows = .empty := Tables.append_eq_self_iff.mp (added.symm.trans same)
  subst nothing
  exact ⟨Or.inl rfl, (failing tables permitted _).1, carried tables permitted effect found⟩

end Operation

/-! ### Actions -/

/-- The program of an action, without its limit. -/
def Action.program : Action α → Program α
  | .answered value => .done value
  | .waiting _ program => program

variable [Collation]

/-- An action that obeys the rule for statements. -/
def Action.Lawful (action : Action α) : Prop :=
  ∀ tables : Tables, action.program.Keeps .anywhere Program.anyResult { tables := tables }

/-- Changing the answer changes what is said of it. -/
theorem Action.keeps_program_map {post : β → View → Prop} {f : α → β} {action : Action α} :
    (f <$> action).program.Keeps cut post view ↔
      action.program.Keeps cut (fun value => post (f value)) view := by
  cases action with
  | answered value => exact Iff.rfl
  | waiting limit program => exact Program.keeps_bind

theorem Action.lawful_answered {value : α} : (Action.answered value).Lawful := fun _ => trivial

theorem Action.Lawful.map {f : α → β} {action : Action α} (lawful : action.Lawful) :
    (f <$> action).Lawful :=
  fun tables => Action.keeps_program_map.mpr (lawful tables)

end Rules

end Storefront
