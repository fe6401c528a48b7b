/-
**Programs run alone.**

A program that keeps a promise keeps it when it is run alone: `Machine.Ended` lists how its run can
end, and what is then known of the tables.

Main statements:

* `Session.run_ended`, `Machine.run_ended`: running a program ends in one of these ways;
* `Machine.perform_ended`: so does performing an action, whichever limit passes first;
* `Machine.perform_grown`: the tables only grow by additions.
-/

import Storefront.Proofs.Program.Sends

namespace Storefront

/-- How a run can end that found these tables: the program has finished, it has been dropped while
it waited, or it has been dropped after a statement whose answer it did not hear.  `instead` is the
answer that stands in for its result when a limit passes, if there is one. -/
inductive Machine.Ended {α : Type} (environment : Environment) (cut : Cut) (post : α → View → Prop)
    (instead : Option α) (before : Machine) (found : Tables) (after : Machine) : Ending α → Prop
  | finished {value : α} (view : View) (tables : after.tables = view.tables)
      (grown : view.tables = found ++ view.added) (kept : post value view) :
      Ended environment cut post instead before found after (.finished value)
  | dropped {ending : Ending α} (view : View) (tables : after.tables = view.tables)
      (grown : view.tables = found ++ view.added) (kept : cut none view)
      (unfinished : ∀ value, ending = .finished value → instead = some value) :
      Ended environment cut post instead before found after ending
  | unheard {ending : Ending α} (view : View) (tables : after.tables = view.tables)
      (grown : view.tables = found ++ view.added) (statement : Statement)
      (kept : cut (some statement) view)
      (carried : Machine.CarriedOut environment before after statement)
      (unfinished : ending = .abandoned ∨ ∃ value, ending = .finished value ∧ instead = some value) :
      Ended environment cut post instead before found after ending

section Runs

variable {α : Type} {environment : Environment} {cut : Cut} {post : α → View → Prop}
  {instead : Option α} {found : Tables}

/-- What happened before the run does not matter. -/
theorem Machine.Ended.earlier {before between after : Machine} {ending : Ending α}
    (ended : between.Ended environment cut post instead found after ending)
    (logged : before.sent <+: between.sent) :
    before.Ended environment cut post instead found after ending := by
  cases ended with
  | finished view tables grown kept => exact .finished view tables grown kept
  | dropped view tables grown kept unfinished => exact .dropped view tables grown kept unfinished
  | unheard view tables grown statement kept carried unfinished =>
    obtain ⟨sent, since, further, answered⟩ := carried
    exact .unheard view tables grown statement kept ⟨sent, logged.trans since, further, answered⟩
      unfinished

/-- Closing the session changes nothing of what is known. -/
theorem Machine.Ended.closed {before after last : Machine} {ending : Ending α}
    (ended : before.Ended environment cut post instead found after ending)
    (tables : last.tables = after.tables) (logged : after.sent <+: last.sent) :
    before.Ended environment cut post instead found last ending := by
  cases ended with
  | finished view same grown kept => exact .finished view (tables.trans same) grown kept
  | dropped view same grown kept unfinished =>
    exact .dropped view (tables.trans same) grown kept unfinished
  | unheard view same grown statement kept carried unfinished =>
    obtain ⟨sent, since, further, answered⟩ := carried
    exact .unheard view (tables.trans same) grown statement kept
      ⟨sent, since, further.trans logged, answered⟩ unfinished

/-- What is sent when a program ends comes behind everything else. -/
theorem Session.sent_close (session : Session) : session.machine.sent <+: session.close.sent := by
  unfold close
  dsimp only
  split
  · exact List.prefix_refl _
  · split
    · exact List.prefix_append _ _
    · exact List.prefix_refl _

/-- Running a program in a session ends as it has promised. -/
theorem Session.run_ended [Collation] {limit : Option Duration} {program : Program α}
    (session : Session) {view : View} (keeps : program.Keeps cut post view)
    (tables : session.machine.tables = view.tables)
    (connection : session.connection = view.connection)
    (grown : view.tables = found ++ view.added) :
    session.machine.Ended environment cut post none found
      (session.run environment limit program).1.machine
      (session.run environment limit program).2 := by
  -- A program that is dropped has no result, and none stands in for it.
  have unfinished : ∀ {ending : Ending α}, ending = .abandoned ∨ ending = .crashed →
      ∀ value, ending = .finished value → (none : Option α) = some value := by
    rintro _ (rfl | rfl) value impossible
    · cases impossible
    · cases impossible
  induction program generalizing session view with
  | done value => exact .finished view tables grown keeps
  | ask call next ih =>
    have keeps := keeps view.tables view.permits_refl
    cases call with
    | freshId =>
      rw [run]
      refine Machine.Ended.earlier (ih _ _ (keeps.2 _) ?_ ?_ grown) ?_
      · exact tables
      · exact connection
      · exact List.prefix_refl _
    | readClock =>
      rw [run]
      refine Machine.Ended.earlier (ih _ _ (keeps.2 _) ?_ ?_ grown) ?_
      · exact tables
      · exact connection
      · exact List.prefix_refl _
    | takeTurn =>
      rw [run]
      dsimp only
      split
      · refine Machine.Ended.earlier (ih _ _ keeps.2 ?_ ?_ grown) ?_
        · exact tables
        · exact connection
        · exact List.prefix_refl _
      · exact .dropped view tables grown keeps.1 (unfinished (Or.inl rfl))
    | connect =>
      rw [run]
      cases connected : session.connect environment with
      | mk after answer =>
        dsimp only
        obtain ⟨same, logged, given⟩ := connect_cases connected
        split
        · obtain ⟨held, rfl⟩ | ⟨held, cause, rfl⟩ := given
          · refine Machine.Ended.earlier (ih _ _ keeps.2.1 ?_ ?_ grown) ?_
            · exact same.trans tables
            · exact held
            · exact logged ▸ List.prefix_refl _
          · refine Machine.Ended.earlier (ih _ _ (keeps.2.2 cause) ?_ ?_ grown) ?_
            · exact same.trans tables
            · exact held.trans connection
            · exact logged ▸ List.prefix_refl _
        · exact .dropped view (same.trans tables) grown keeps.1 (unfinished (Or.inl rfl))
    | send statement =>
      obtain ⟨waiting, goes⟩ := keeps
      have sent : session.Sent environment statement (session.send environment limit statement) :=
        send_cases session
      rw [run]
      generalize session.send environment limit statement = outcome at sent ⊢
      -- the rows that a statement adds are added to the tables and to the account of the view alike
      have more : ∀ {rows : Tables}, view.tables ++ rows = found ++ (view.added ++ rows) := by
        intro rows
        rw [grown, Tables.append_assoc]
      cases sent with
      | answered exchange added logged =>
        rw [tables, connection] at exchange
        rw [tables] at added
        exact (ih _ _ (goes _ _ _ exchange).2.2 added rfl more).earlier logged
      | @undone after reply same silent =>
        cases reply with
        | answer answer => exact absurd rfl (silent answer)
        | late => exact .dropped view (same.trans tables) grown waiting (unfinished (Or.inl rfl))
        | crashed => exact .dropped view (same.trans tables) grown waiting (unfinished (Or.inr rfl))
      | unheard exchange added carried =>
        rw [tables, connection] at exchange
        rw [tables] at added
        exact .unheard _ added more statement (goes _ _ _ exchange).2.1 carried (Or.inl rfl)

/-- A program on a machine ends as it has promised. -/
theorem Machine.run_ended [Collation] {limit : Option Duration} {program : Program α}
    {machine : Machine} (keeps : program.Keeps cut post { tables := machine.tables }) :
    machine.Ended environment cut post none machine.tables
      (machine.run environment limit program).1 (machine.run environment limit program).2 := by
  have ended : machine.Ended environment cut post none machine.tables
      (Session.run environment limit program ⟨machine, none, 0⟩).1.machine
      (Session.run environment limit program ⟨machine, none, 0⟩).2 := 
    Session.run_ended ⟨machine, none, 0⟩ keeps rfl rfl (Tables.append_empty machine.tables).symm
  have closed := Session.tables_close (Session.run environment limit program ⟨machine, none, 0⟩).1
  have logged := Session.sent_close (Session.run environment limit program ⟨machine, none, 0⟩).1
  exact ended.closed closed logged

/-- A run that has no answer to stand in for its result may be given one. -/
theorem Machine.Ended.given {before after : Machine} {ending : Ending α}
    (ended : before.Ended environment cut post none found after ending) :
    before.Ended environment cut post instead found after ending := by
  cases ended with
  | finished view tables grown kept => exact .finished view tables grown kept
  | dropped view tables grown kept unfinished =>
    exact .dropped view tables grown kept fun value same => nomatch unfinished value same
  | unheard view tables grown statement kept carried unfinished =>
    obtain abandoned | ⟨value, _, impossible⟩ := unfinished
    · exact .unheard view tables grown statement kept carried (Or.inl abandoned)
    · cases impossible

/-- The answer that stands in for the result of a run that was abandoned. -/
theorem Machine.Ended.substituted {before after : Machine} {value : α}
    (ended : before.Ended environment cut post none found after .abandoned) :
    before.Ended environment cut post (some value) found after (.finished value) := by
  cases ended with
  | dropped view tables grown kept unfinished =>
    exact .dropped view tables grown kept fun other same => by cases same; rfl
  | unheard view tables grown statement kept carried unfinished =>
    exact .unheard view tables grown statement kept carried (Or.inr ⟨value, rfl, rfl⟩)

/-- An action ends as its program has promised, or with the answer that stands in for its result. -/
theorem Machine.perform_ended [Collation] {outer : Option Duration} {bound : Option (Duration × α)}
    {program : Program α} {machine : Machine}
    (keeps : program.Keeps cut post { tables := machine.tables }) :
    machine.Ended environment cut post (bound.map Prod.snd) machine.tables
      (machine.perform environment outer (.waiting bound program)).1
      (machine.perform environment outer (.waiting bound program)).2 := by
  unfold perform
  cases bound with
  | none => exact run_ended keeps
  | some bound =>
    obtain ⟨limit, value⟩ := bound
    dsimp only
    split
    · have ended : machine.Ended environment cut post none machine.tables
          (machine.run environment (some limit) program).1
          (machine.run environment (some limit) program).2 := run_ended keeps
      cases ran : machine.run environment (some limit) program with
      | mk after ending =>
        rw [ran] at ended
        cases ending with
        | abandoned => exact ended.substituted
        | finished result => exact ended.given
        | crashed => exact ended.given
    · exact (run_ended keeps).given

/-- Performing an action that keeps a promise makes the tables grow by additions only. -/
theorem Machine.perform_grown [Collation] {outer : Option Duration} {action : Action α}
    {machine : Machine} (keeps : action.program.Keeps cut post { tables := machine.tables }) :
    machine.tables.Grown (machine.perform environment outer action).1.tables := by
  cases action with
  | answered value => exact Relation.ReflTransGen.refl
  | waiting bound program =>
    have ended : machine.Ended environment _ _ (bound.map Prod.snd) machine.tables
        (machine.perform environment outer (.waiting bound program)).1
        (machine.perform environment outer (.waiting bound program)).2 :=
      perform_ended (Program.Keeps.grown keeps Relation.ReflTransGen.refl)
    generalize machine.perform environment outer (.waiting bound program) = outcome at ended ⊢
    obtain ⟨after, ending⟩ := outcome
    cases ended with
    | finished view tables grown kept => exact tables ▸ kept.1
    | dropped view tables grown kept unfinished => exact tables ▸ kept.1
    | unheard view tables grown statement kept carried unfinished => exact tables ▸ kept.1

end Runs

end Storefront
