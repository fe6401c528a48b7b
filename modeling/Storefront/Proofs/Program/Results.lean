/-
**What programs come to.**

A result of an action is its program's own unless it is the answer that stands in for it when a limit
passes (`Action.standIn?`).  Of a result that is its own the program has kept its promise, with
states that have grown from the one that it found first.

`Program.Yields reading post` says what every result is like if every reading of the clock is like
that, whatever else the program is answered.

Main statements:

* `Machine.perform_finished`: a result of its own keeps the promise of the program;
* `Machine.perform_yields`: it is what the program yields with the clock of the environment.
-/

import Storefront.Proofs.Program.Alone

namespace Storefront

variable {α β : Type} {environment : Environment} {outer : Option Duration}

/-- The answer that stands in for the result of an action when its limit passes. -/
def Action.standIn? : Action α → Option α
  | .answered _ => none
  | .waiting bound _ => bound.map Prod.snd

/-! ### Promises -/

section Promises

variable [Collation]
variable {cut : Cut} {post : α → View → Prop} {view : View} {program : Program α} {start : Tables}

/-- The states that a program meets have grown from the one that it found first. -/
theorem Program.Keeps.met (keeps : program.Keeps cut post view) (reached : start.Grown view.tables)
    (seen : ∀ state ∈ view.seen, start.Grown state) :
    program.Keeps cut (fun value view => (∀ state ∈ view.seen, start.Grown state) ∧ post value view)
      view := by
  have preserved : View.Preserved (fun _ => True) cut fun view =>
      start.Grown view.tables ∧ ∀ state ∈ view.seen, start.Grown state := by
    refine { others := ?_, turn := fun _ holds => holds, connected := fun _ holds => holds,
             exchanged := ?_ }
    · exact fun _ _ holds permitted => ⟨Relation.ReflTransGen.trans holds.1 permitted.1, holds.2⟩
    · intro view statement answer rows connection holds _ _ _ lawful
      refine ⟨Relation.ReflTransGen.trans holds.1 lawful.grown, fun state member => ?_⟩
      rcases List.mem_append.mp member with old | new
      · exact holds.2 state old
      · exact List.mem_singleton.mp new ▸ holds.1
  exact (keeps.preserved program.sends_all preserved ⟨reached, seen⟩).mono
    (fun _ _ kept => kept.2) fun _ _ kept => ⟨kept.1.2, kept.2⟩

/-- A result of its own keeps the promise of the program. -/
theorem Machine.perform_finished {action : Action α} {machine : Machine} {value : α}
    (keeps : action.program.Keeps cut post { tables := machine.tables })
    (finished : (machine.perform environment outer action).2 = .finished value)
    (own : ∀ other ∈ action.standIn?, other ≠ value) :
    ∃ view : View, post value view ∧
      (machine.perform environment outer action).1.tables = machine.tables ++ view.added := by
  cases action with
  | answered result =>
    obtain rfl : result = value := Ending.finished.inj finished
    exact ⟨_, keeps, (Tables.append_empty _).symm⟩
  | waiting bound program =>
    have ended : machine.Ended environment cut post (bound.map Prod.snd) machine.tables
        (machine.perform environment outer (.waiting bound program)).1
        (machine.perform environment outer (.waiting bound program)).2 := perform_ended keeps
    generalize machine.perform environment outer (.waiting bound program) = outcome at ended finished ⊢
    obtain ⟨after, ending⟩ := outcome
    obtain rfl : ending = .finished value := finished
    cases ended with
    | finished view tables grown kept => exact ⟨view, kept, tables.trans grown⟩
    | dropped view tables grown kept unfinished => exact absurd rfl (own value (unfinished value rfl))
    | unheard view tables grown statement kept carried unfinished =>
      obtain abandoned | ⟨other, same, found⟩ := unfinished
      · cases abandoned
      · exact absurd (Ending.finished.inj same).symm (own other found)

end Promises

/-! ### Readings of the clock -/

/-- An answer to a call, with readings of the clock that are like this. -/
def Call.Gives (reading : Timestamp → Prop) : (call : Call) → call.Answer → Prop
  | .readClock, now => reading now
  | _, _ => True

/-- Every result is like this, if every reading of the clock is like that. -/
def Program.Yields (reading : Timestamp → Prop) (post : α → Prop) : Program α → Prop
  | .done value => post value
  | .ask call next => ∀ answer, call.Gives reading answer → Yields reading post (next answer)

section Yields

variable {reading : Timestamp → Prop}

theorem Program.yields_of_forall {post : α → Prop} (all : ∀ value, post value) (program : Program α) :
    program.Yields reading post := by
  induction program with
  | done value => exact all value
  | ask call next ih => exact fun answer _ => ih answer

theorem Program.Yields.mono {post weaker : α → Prop} {program : Program α}
    (yields : program.Yields reading post) (implies : ∀ value, post value → weaker value) :
    program.Yields reading weaker := by
  induction program with
  | done value => exact implies value yields
  | ask call next ih => exact fun answer given => ih answer (yields answer given)

theorem Program.yields_bind {post : β → Prop} {program : Program α} {next : α → Program β} :
    (program >>= next).Yields reading post ↔
      program.Yields reading fun value => (next value).Yields reading post := by
  induction program with
  | done value => exact Iff.rfl
  | ask call rest ih => exact forall_congr' fun answer => imp_congr_right fun _ => ih answer

namespace Operation

variable {post : Except StoreError β → Prop} {operation : Operation α} {next : α → Operation β}

/-- What is to be shown of the rest of an operation, or of its failure. -/
def Rest (reading : Timestamp → Prop) (post : Except StoreError β → Prop) (next : α → Operation β) :
    Except StoreError α → Prop
  | .ok value => (next value).run.Yields reading post
  | .error cause => post (.error cause)

/-- One operation after another. -/
theorem yields_bind :
    (operation >>= next).run.Yields reading post ↔
      operation.run.Yields reading (Rest reading post next) := by
  have same : (fun result => (proceed next result).Yields reading post) = Rest reading post next := by
    funext result
    cases result <;> rfl
  rw [run_bind, Program.yields_bind, same]

/-- Whatever comes first, the rest of an operation decides, or that it fails. -/
theorem yields_bind_of_forall (rest : ∀ value, (next value).run.Yields reading post)
    (fails : ∀ cause, post (.error cause)) : (operation >>= next).run.Yields reading post := by
  refine yields_bind.mpr (Program.yields_of_forall (fun result => ?_) _)
  cases result with
  | ok value => exact rest value
  | error cause => exact fails cause

end Operation

theorem Action.yields_program_map {post : β → Prop} {f : α → β} {action : Action α} :
    (f <$> action).program.Yields reading post ↔
      action.program.Yields reading fun value => post (f value) := by
  cases action with
  | answered value => exact Iff.rfl
  | waiting limit program => exact Program.yields_bind

variable {post : α → Prop}

/-- A result is what the program yields with the clock of the environment. -/
theorem Session.run_yields [Collation] {limit : Option Duration} {program : Program α} {value : α}
    (readings : ∀ count, reading (.ofClock (environment.clock count)))
    (yields : program.Yields reading post) (session : Session)
    (finished : (session.run environment limit program).2 = .finished value) : post value := by
  induction program generalizing session with
  | done result =>
    obtain rfl : result = value := Ending.finished.inj finished
    exact yields
  | ask call next ih =>
    cases call with
    | freshId => exact ih _ (yields _ trivial) _ finished
    | readClock => exact ih _ (yields _ (readings _)) _ finished
    | takeTurn =>
      rw [run] at finished
      dsimp only at finished
      split at finished
      · exact ih _ (yields _ trivial) _ finished
      · cases finished
    | connect =>
      rw [run] at finished
      dsimp only at finished
      split at finished
      · exact ih _ (yields _ trivial) _ finished
      · cases finished
    | send statement =>
      rw [run] at finished
      generalize session.send environment limit statement = sent at finished
      obtain ⟨after, reply⟩ := sent
      cases reply with
      | answer answer => exact ih _ (yields _ trivial) _ finished
      | late => cases finished
      | crashed => cases finished

/-- A result of its own is what the program of an action yields. -/
theorem Machine.perform_yields [Collation] {action : Action α} {machine : Machine} {value : α}
    (readings : ∀ count, reading (.ofClock (environment.clock count)))
    (yields : action.program.Yields reading post)
    (finished : (machine.perform environment outer action).2 = .finished value)
    (own : ∀ other ∈ action.standIn?, other ≠ value) : post value := by
  have runs : ∀ {limit : Option Duration} {program : Program α}, program.Yields reading post →
      (machine.run environment limit program).2 = .finished value → post value :=
    fun yields finished => Session.run_yields readings yields ⟨machine, none, 0⟩ finished
  cases action with
  | answered result =>
    obtain rfl : result = value := Ending.finished.inj finished
    exact yields
  | waiting bound program =>
    unfold perform at finished
    cases bound with
    | none => exact runs yields finished
    | some bound =>
      obtain ⟨limit, instead⟩ := bound
      dsimp only at finished
      split at finished
      · cases ran : machine.run environment (some limit) program with
        | mk after ending =>
          rw [ran] at finished
          cases ending with
          | abandoned => exact absurd (Ending.finished.inj finished) (own instead rfl)
          | crashed => cases finished
          | finished result =>
            obtain rfl : result = value := Ending.finished.inj finished
            exact runs yields (congrArg Prod.snd ran)
      · exact runs yields finished

end Yields

end Storefront
