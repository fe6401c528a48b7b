/-
**What programs send.**

`Program.Sends allowed program` says that every statement which the program can send is allowed,
whatever it is answered.  Then nothing else reaches the database while it runs
(`Machine.SentSince`), in any environment and within any limits, apart from the `ROLLBACK` by which
a transaction is ended that the program has left open.

Main statements:

* `Program.Keeps.preserved`: what the calls of a program preserve holds wherever it stands;
* `Program.Keeps.grown`: a program that keeps a promise makes the tables grow by additions only;
* `Machine.run_sends`, `Machine.perform_sends`: what reaches the database has been allowed.
-/

import Storefront.Proofs.Program.Keeps

namespace Storefront

variable {α β : Type} {allowed : Statement → Prop}

/-! ### Programs -/

/-- Every statement that the program can send is allowed, whatever it is answered. -/
def Program.Sends (allowed : Statement → Prop) : Program α → Prop
  | .done _ => True
  | .ask call next =>
    (∀ statement, call = .send statement → allowed statement) ∧ ∀ answer, Sends allowed (next answer)

namespace Program

theorem Sends.mono {more : Statement → Prop} {program : Program α} (sends : program.Sends allowed)
    (implies : ∀ statement, allowed statement → more statement) : program.Sends more := by
  induction program with
  | done value => trivial
  | ask call next ih =>
    exact ⟨fun statement same => implies statement (sends.1 statement same),
      fun answer => ih answer (sends.2 answer)⟩

/-- What a program sends it also sends when something follows. -/
theorem Sends.of_bind {program : Program α} {next : α → Program β}
    (sends : (program >>= next).Sends allowed) : program.Sends allowed := by
  induction program with
  | done value => trivial
  | ask call goes ih => exact ⟨sends.1, fun answer => ih answer (sends.2 answer)⟩

theorem sends_all (program : Program α) : program.Sends fun _ => True := by
  induction program with
  | done value => trivial
  | ask call next ih => exact ⟨fun _ _ => trivial, fun answer => ih answer⟩

end Program

namespace Operation

variable {fail : DriverError → StoreError} {query : Query} {values : List Cell}

theorem sends_known {result : Except DriverError α} : (known fail result).run.Sends allowed := trivial

theorem sends_freshId : freshId.run.Sends allowed := ⟨nofun, fun _ => trivial⟩

theorem sends_readClock : readClock.run.Sends allowed := ⟨nofun, fun _ => trivial⟩

theorem sends_takeTurn : takeTurn.run.Sends allowed := ⟨nofun, fun _ => trivial⟩

theorem sends_connect : (connect fail).run.Sends allowed := ⟨nofun, fun _ => trivial⟩

theorem sends_send (permitted : allowed ⟨query, values⟩) :
    (send fail query values).run.Sends allowed := by
  refine ⟨?_, fun _ => trivial⟩
  rintro _ ⟨⟩
  exact permitted

end Operation

/-! ### What calls preserve -/

/-- What holds of a view still holds after anything that a program may do, or others, while it sends
allowed statements only and can be dropped before each of them. -/
structure View.Preserved [Collation] (allowed : Statement → Prop) (cut : Cut) (holds : View → Prop) :
    Prop where
  others : ∀ view tables, holds view → view.Permits tables → holds (view.on tables)
  turn : ∀ view, holds view → holds { view with turn := true }
  connected : ∀ view, holds view → holds { view with connection := some {} }
  exchanged : ∀ {view statement answer rows connection}, holds view → cut none view →
    allowed statement → Exchange statement view.tables view.connection answer rows connection →
    statement.Lawful view rows → holds (view.exchanged rows connection)

/-- What the calls of a program preserve holds wherever it stands. -/
theorem Program.Keeps.preserved [Collation] {cut : Cut} {post : α → View → Prop} {view : View}
    {holds : View → Prop} {program : Program α} (keeps : program.Keeps cut post view)
    (sends : program.Sends allowed) (preserved : View.Preserved allowed cut holds)
    (start : holds view) :
    program.Keeps (fun statement view => holds view ∧ cut statement view)
      (fun value view => holds view ∧ post value view) view := by
  induction program generalizing view with
  | done value => exact ⟨start, keeps⟩
  | ask call next ih =>
    intro tables permitted
    have now := preserved.others view tables start permitted
    have goes := keeps tables permitted
    obtain ⟨permits, sends⟩ := sends
    cases call with
    | freshId => exact ⟨⟨now, goes.1⟩, fun id => ih _ (goes.2 id) (sends _) now⟩
    | readClock => exact ⟨⟨now, goes.1⟩, fun nanos => ih _ (goes.2 nanos) (sends _) now⟩
    | takeTurn => exact ⟨⟨now, goes.1⟩, ih _ goes.2 (sends _) (preserved.turn _ now)⟩
    | connect =>
      exact ⟨⟨now, goes.1⟩, ih _ goes.2.1 (sends _) (preserved.connected _ now),
        fun cause => ih _ (goes.2.2 cause) (sends _) now⟩
    | send statement =>
      refine ⟨⟨now, goes.1⟩, fun answer rows connection exchange => ?_⟩
      obtain ⟨lawful, lost, later⟩ := goes.2 answer rows connection exchange
      have after := preserved.exchanged now goes.1 (permits statement rfl) exchange lawful
      exact ⟨lawful, ⟨after, lost⟩, ih _ later (sends _) after⟩

/-- A program that keeps a promise makes the tables grow by additions only. -/
theorem Program.Keeps.grown [Collation] {start : Tables} {cut : Cut} {post : α → View → Prop}
    {view : View} {program : Program α} (keeps : program.Keeps cut post view)
    (reached : start.Grown view.tables) :
    program.Keeps (fun statement view => start.Grown view.tables ∧ cut statement view)
      (fun value view => start.Grown view.tables ∧ post value view) view := by
  refine keeps.preserved program.sends_all ?_ reached
  exact {
    others := fun _ _ reached permitted => Relation.ReflTransGen.trans reached permitted.1
    turn := fun _ reached => reached
    connected := fun _ reached => reached
    exchanged := fun reached _ _ _ lawful => Relation.ReflTransGen.trans reached lawful.grown }

/-! ### Runs -/

/-- Nothing but allowed statements has reached the database since. -/
def Machine.SentSince (allowed : Statement → Prop) (before after : Machine) : Prop :=
  ∃ new, after.sent = before.sent ++ new ∧ ∀ statement ∈ new, allowed statement

namespace Machine.SentSince

variable {first second third : Machine}

theorem of_same (same : second.sent = first.sent) : SentSince allowed first second :=
  ⟨[], by rw [same, List.append_nil], nofun⟩

theorem of_one {statement : Statement} (permitted : allowed statement)
    (logged : second.sent = first.sent ++ [statement]) : SentSince allowed first second := by
  refine ⟨[statement], logged, fun other member => ?_⟩
  rw [List.mem_singleton.mp member]
  exact permitted

theorem mono {more : Statement → Prop} (sent : SentSince allowed first second)
    (implies : ∀ statement, allowed statement → more statement) : SentSince more first second := by
  obtain ⟨new, logged, permitted⟩ := sent
  exact ⟨new, logged, fun statement member => implies statement (permitted statement member)⟩

theorem trans (earlier : SentSince allowed first second) (later : SentSince allowed second third) :
    SentSince allowed first third := by
  obtain ⟨new, sent, permitted⟩ := earlier
  obtain ⟨more, sent', permitted'⟩ := later
  refine ⟨new ++ more, by rw [sent', sent, List.append_assoc], fun statement member => ?_⟩
  rcases List.mem_append.mp member with old | new
  · exact permitted statement old
  · exact permitted' statement new

end Machine.SentSince

section Runs

variable {environment : Environment} {limit : Option Duration}

/-- Sending a statement brings that one to the database, or none. -/
theorem Session.send_sentSince [Collation] (session : Session) {statement : Statement}
    (permitted : allowed statement) :
    session.machine.SentSince allowed (session.send environment limit statement).1.machine := by
  unfold send
  dsimp only
  split
  · exact .of_same rfl
  · split
    · exact .of_same rfl
    · split
      all_goals exact .of_one permitted rfl

/-- Nothing but what a program may send reaches the database while it runs. -/
theorem Session.run_sends [Collation] {program : Program α} (sends : program.Sends allowed)
    (session : Session) :
    session.machine.SentSince allowed (session.run environment limit program).1.machine := by
  induction program generalizing session with
  | done value => exact .of_same rfl
  | ask call next ih =>
    obtain ⟨permitted, goes⟩ := sends
    cases call with
    | freshId => exact .trans (.of_same rfl) (ih _ (goes _) _)
    | readClock => exact .trans (.of_same rfl) (ih _ (goes _) _)
    | takeTurn =>
      rw [run]
      dsimp only
      split
      · exact .trans (.of_same rfl) (ih _ (goes _) _)
      · exact .of_same rfl
    | connect =>
      rw [run]
      cases connected : session.connect environment with
      | mk after answer =>
        have same := (connect_cases connected).2.1
        dsimp only
        split
        · exact .trans (.of_same same) (ih _ (goes _) _)
        · exact .of_same same
    | send statement =>
      have sent : session.machine.SentSince allowed
          (session.send environment limit statement).1.machine :=
        session.send_sentSince (permitted statement rfl)
      rw [run]
      generalize session.send environment limit statement = outcome at sent
      obtain ⟨after, reply⟩ := outcome
      cases reply with
      | answer answer => exact sent.trans (ih _ (goes _) _)
      | late => exact sent
      | crashed => exact sent

/-- Closing a session brings nothing to the database but the end of an open transaction. -/
theorem Session.close_sentSince (session : Session) (permitted : allowed ⟨.rollback, []⟩) :
    session.machine.SentSince allowed session.close := by
  unfold close
  dsimp only
  split
  · exact .of_same rfl
  · split
    · exact .of_one permitted rfl
    · exact .of_same rfl

theorem Machine.run_sends [Collation] {program : Program α} (sends : program.Sends allowed)
    (permitted : allowed ⟨.rollback, []⟩) (machine : Machine) :
    machine.SentSince allowed (machine.run environment limit program).1 :=
  .trans (Session.run_sends sends ⟨machine, none, 0⟩) (Session.close_sentSince _ permitted)

/-- Nothing but what an action may send reaches the database when it is performed. -/
theorem Machine.perform_sends [Collation] {action : Action α} (sends : action.program.Sends allowed)
    (permitted : allowed ⟨.rollback, []⟩) (machine : Machine) :
    machine.SentSince allowed (machine.perform environment limit action).1 := by
  cases action with
  | answered value => exact .of_same rfl
  | waiting bound program =>
    change program.Sends allowed at sends
    unfold perform
    cases bound with
    | none => exact run_sends sends permitted machine
    | some bound =>
      obtain ⟨own, value⟩ := bound
      have within : machine.SentSince allowed (machine.run environment (some own) program).1 :=
        run_sends sends permitted machine
      dsimp only
      split
      · generalize machine.run environment (some own) program = outcome at within
        obtain ⟨after, ending⟩ := outcome
        cases ending <;> exact within
      · exact run_sends sends permitted machine

end Runs

end Storefront
