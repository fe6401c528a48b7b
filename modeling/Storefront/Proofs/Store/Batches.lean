/-
**How many values the statements of a call carry.**

Every statement that the stores send has eight values at most, but the one that adds the lines of an order:
it has seven for each line, and all lines are added by one statement.  So a database that takes only so many
values with a statement is never noticed unless an order has many lines, and an order with too many lines
can never be made.

Main statements:

* `StoreCall.fits_iff`: the statements of a call keep a capacity exactly when the lines of its order do;
* `StoreCall.perform_of_crowded`: an order with too many lines is never made, and leaves nothing behind;
* `StoreCall.lines_up_to_capacity`: both for the largest number of values that a statement can carry.
-/

import Storefront.Proofs.Database.Placeholders
import Storefront.Proofs.Order.Making
import Storefront.Proofs.Program.Capacity
import Storefront.Proofs.Program.Endings
import Storefront.Proofs.Store.Soundness
import Storefront.Proofs.Store.Writes

namespace Storefront

/-- The largest number of values that a statement can carry: sixteen bits hold the number. -/
def Statement.maxValues : Nat := 65535

/-- The number of lines that a call asks for; empty ones do not count. -/
def StoreCall.lineCount : StoreCall → Nat
  | .createOrder (some input) => (input.items.filterMap fun line => line).length
  | _ => 0

variable {capacity : Nat} {allowed : Statement → Prop}

/-! ### Values -/

theorem OrderLine.wide_cells (lines : List OrderLine) : ∀ row ∈ lines.map cells, row.length = 7 := by
  rintro _ member
  obtain ⟨line, -, rfl⟩ := List.mem_map.mp member
  rfl

theorem OrderLine.length_flatten_cells (lines : List OrderLine) :
    (lines.map OrderLine.cells).flatten.length = 7 * lines.length := by
  rw [length_flatten_of_wide (wide_cells lines), List.length_map]

/-- The statement that adds lines has seven values for each of them. -/
theorem OrderStore.batch_fits_iff {lines : List OrderLine} :
    (Statement.insert .orderItems (lines.map OrderLine.cells) false).Fits capacity ↔
      7 * lines.length ≤ capacity :=
  iff_of_eq (congrArg (· ≤ capacity) (OrderLine.length_flatten_cells lines))

theorem Order.length_numberLines (input : NewOrder) :
    (numberLines input).length = (input.items.filterMap fun line => line).length :=
  List.length_mapIdx

/-- An order with so many lines. -/
def NewOrder.bulk (count : Nat) : NewOrder where
  accountId := .numbered 10
  items := List.replicate count (some ⟨.numbered 11, 1⟩)

theorem Order.length_numberLines_bulk (count : Nat) : (numberLines (.bulk count)).length = count := by
  have lines : (NewOrder.bulk count).items.filterMap (fun line => line) =
      List.replicate count ⟨.numbered 11, 1⟩ := List.filterMap_replicate_of_some rfl
  rw [length_numberLines, lines, List.length_replicate]

theorem NewOrder.lineCount_bulk (count : Nat) :
    (StoreCall.createOrder (some (.bulk count))).lineCount = count :=
  (Order.length_numberLines _).symm.trans (Order.length_numberLines_bulk count)

namespace OrderStore

/-! ### Lines that are sent -/

/-- Lines are made whatever the program is answered. -/
theorem exists_sends_of_makeLines {orderId : Uuid} {wishes : List (NewLine × Int)}
    {next : List OrderLine → Operation Order}
    (sends : (makeLines orderId wishes >>= next).run.Sends allowed) :
    ∃ lines, lines.length = wishes.length ∧ (next lines).run.Sends allowed := by
  induction wishes generalizing next with
  | nil => exact ⟨[], rfl, sends⟩
  | cons wish rest ih =>
    obtain ⟨line, position⟩ := wish
    have made : ((makeLines orderId rest >>= fun others =>
        pure (OrderLine.register orderId line position (.numbered 0) (.ofClock 0) :: others)) >>=
          next).run.Sends allowed :=
      (sends.2 (Timestamp.ofClock 0)).2 (Uuid.numbered 0)
    rw [bind_assoc] at made
    obtain ⟨others, same, goes⟩ := ih made
    exact ⟨_, congrArg (· + 1) same, goes⟩

/-- If the account is there the lines are sent, unless there are none. -/
theorem exists_sends_batch {input : NewOrder} (sends : (add input).run.Sends allowed) :
    ∃ lines : List OrderLine, lines.length = (Order.numberLines input).length ∧
      (lines ≠ [] → allowed (.insert .orderItems (lines.map OrderLine.cells) false)) := by
  have waits := ((sends.2 ()).2 (Timestamp.ofClock 0)).2 (Uuid.numbered 0)
  have begun := (waits.2 (.ok ())).2 (.ok [])
  have headed := (begun.2 (.ok [[("exists", .truth true)]])).2 (.ok [])
  obtain ⟨lines, same, goes⟩ := exists_sends_of_makeLines headed
  refine ⟨lines, same, fun filled => ?_⟩
  have full : lines.isEmpty = false := by rwa [List.isEmpty_eq_false_iff]
  unfold addLines at goes
  rw [full] at goes
  exact goes.1 _ rfl

/-- An order with too many lines is never made, and its transaction is never committed. -/
theorem add_confined_of_crowded {input : NewOrder} (room : 8 ≤ capacity)
    (crowded : capacity < 7 * (Order.numberLines input).length) :
    (add input).run.Confined (Call.AnsweredWithin capacity) (· ≠ ⟨.commit, []⟩)
      fun result => ∃ cause, result = .error cause := by
  refine add_confined nofun (fun _ => nofun) (fun _ => nofun) nofun (fun cause => ⟨cause, rfl⟩)
    fun order lines same => ?_
  refine Operation.confined_bind.mpr
    (addLines_confined (fun _ => nofun) (fun made => ?_) fun cause => ⟨cause, rfl⟩)
  -- the lines have not been added, so there is nothing to go on with
  have filled : lines ≠ [] := by
    rintro rfl
    rw [← same, List.length_nil] at crowded
    omega
  obtain ⟨rows, fits | ⟨cause, impossible⟩⟩ := made filled
  · rw [batch_fits_iff, same] at fits
    exact absurd fits (by omega)
  · cases impossible

variable {environment : Environment} {limit outer : Option Duration} {input : NewOrder}
  {machine after : Machine} {ending : Ending (Except StoreError Order)}

/-- An order with too many lines is never made, and leaves nothing behind. -/
theorem create_of_crowded [Collation] (room : 8 ≤ capacity)
    (crowded : capacity < 7 * (Order.numberLines input).length)
    (performed : machine.perform (environment.withCapacity capacity) outer
      ((inDatabase limit).create (some input)) = (after, ending)) :
    (∀ order, ending ≠ .finished (.ok order)) ∧ after.tables = machine.tables := by
  have standIn : ∀ result ∈ ((inDatabase limit).create (some input)).standIn?,
      ∃ cause, result = .error cause := by
    intro result found
    cases limit with
    | none => cases found
    | some duration => exact ⟨.timeout duration, (Option.some.inj found).symm⟩
  have confined := @Machine.perform_confined _ _ _ _ _ outer _ ((inDatabase limit).create (some input))
    (@Environment.answers_withCapacity environment capacity _)
    (add_confined_of_crowded room crowded) standIn nofun machine
  rw [performed] at confined
  obtain ⟨⟨new, logged, uncommitted⟩, fails⟩ := confined
  have never : ∀ order, ending ≠ .finished (.ok order) := by
    rintro order rfl
    obtain ⟨cause, impossible⟩ := fails _ rfl
    cases impossible
  refine ⟨never, ?_⟩
  obtain ⟨order, made, _⟩ | ⟨_, same⟩ | ⟨_, sent, since, further, _⟩ := create_cases performed
  · exact absurd made (never order)
  · exact same
  · -- a commit that has been carried out would have been sent
    obtain ⟨old, rfl⟩ := since
    dsimp only at logged
    rw [logged, List.append_assoc, List.prefix_append_right_inj] at further
    have committed : (⟨.commit, []⟩ : Statement) ∈ new :=
      further.subset (List.mem_append_right _ List.mem_cons_self)
    exact absurd rfl (uncommitted _ committed)

end OrderStore

/-- The shop is a database that has been in use. -/
theorem sound_shop : shop.Sound := by
  obtain ⟨machine, reached, tables⟩ : ∃ machine : Machine,
      Relation.ReflTransGen Machine.Operated {} machine ∧ machine.tables = shop :=
    ⟨_, .tail (.tail .refl
      (.call .sample none none (.createAccount (some ⟨"ada@example.org", none, none, none, .female⟩))))
      (.call .sample none none (.createItem (some ⟨"Tea", none, ⟨0⟩⟩))), rfl⟩
  exact tables ▸ Tables.sound_empty.grown (Machine.grown_of_operated reached)

/-! ### Calls -/

namespace StoreCall

/-- The statements of a call keep a capacity if the lines of its order do. -/
theorem fits_of_lines (call : StoreCall) (room : 8 ≤ capacity) (few : 7 * call.lineCount ≤ capacity) :
    call.program.Sends (Statement.Fits capacity) := by
  have fits : ∀ {statement : Statement}, Nat.ble statement.values.length 8 = true →
      statement.Fits capacity :=
    fun small => Nat.le_trans (Nat.le_of_ble_eq_true small) room
  refine call.program_asks.mono fun statement asks => ?_
  cases asks with
  | newLines many =>
    rw [OrderStore.batch_fits_iff, many, Order.length_numberLines]
    exact few
  | _ => exact fits rfl

/-- **The statements of a call keep a capacity exactly when the lines of its order do.** -/
theorem fits_iff (call : StoreCall) (room : 8 ≤ capacity) :
    call.program.Sends (Statement.Fits capacity) ↔ 7 * call.lineCount ≤ capacity := by
  refine ⟨fun sends => ?_, call.fits_of_lines room⟩
  cases call with
  | createOrder input =>
    cases input with
    | none => exact Nat.zero_le _
    | some input =>
      have answered : ((OrderStore.add input).run >>= fun result => .done (StoreAnswer.order result)).Sends
          (Statement.Fits capacity) := sends
      obtain ⟨lines, same, fits⟩ := OrderStore.exists_sends_batch answered.of_bind
      rw [lineCount, ← Order.length_numberLines, ← same]
      by_cases empty : lines = []
      · rw [empty, List.length_nil]
        exact Nat.zero_le _
      · exact OrderStore.batch_fits_iff.mp (fits empty)
  | _ => exact Nat.zero_le _

section Performed

variable {environment : Environment} {limit outer : Option Duration} {machine : Machine}

/-- **An order with too many lines is never made**, and leaves nothing behind. -/
theorem perform_of_crowded [Collation] (call : StoreCall) (room : 8 ≤ capacity)
    (crowded : capacity < 7 * call.lineCount) :
    (∀ order, (machine.perform (environment.withCapacity capacity) outer (call.action limit)).2 ≠
        .finished (.order (.ok order))) ∧
      (machine.perform (environment.withCapacity capacity) outer (call.action limit)).1.tables =
        machine.tables := by
  cases call with
  | createOrder input =>
    cases input with
    | none => exact absurd crowded (Nat.not_lt_zero capacity)
    | some input =>
      rw [lineCount, ← Order.length_numberLines] at crowded
      obtain ⟨never, same⟩ := OrderStore.create_of_crowded room crowded
        (rfl : machine.perform (environment.withCapacity capacity) outer
          ((OrderStore.inDatabase limit).create (some input)) = (_, _))
      rw [action, Machine.perform_map]
      refine ⟨fun order finished => ?_, same⟩
      obtain ⟨result, ended, made⟩ := Ending.map_eq_finished_iff.mp finished
      obtain rfl := StoreAnswer.order.inj made
      exact never order ended
  | _ => exact absurd crowded (Nat.not_lt_zero capacity)

/-- **A database that takes only so many values is not noticed** if the lines of the order are few. -/
theorem perform_of_lines [Collation] (call : StoreCall) (room : 8 ≤ capacity)
    (few : 7 * call.lineCount ≤ capacity) :
    machine.perform (environment.withCapacity capacity) outer (call.action limit) =
      machine.perform environment outer (call.action limit) := by
  refine Machine.perform_congr Environment.withCapacity_agreesOn ?_ machine
  rw [program_action]
  exact call.fits_of_lines room few

/-- **With up to 9362 lines an order is made as if statements took any number of values, and with more it
is never made.** The statements of a call keep to the largest number exactly when its order has no more
lines.  Then that there is such a number makes no difference; otherwise no order is returned, and none is
kept. -/
theorem lines_up_to_capacity [Collation] (environment : Environment) (limit outer : Option Duration)
    (machine : Machine) (call : StoreCall) :
    ((call.action limit).program.Sends (Statement.Fits Statement.maxValues) ↔ call.lineCount ≤ 9362) ∧
      (call.lineCount ≤ 9362 →
        machine.perform (environment.withCapacity Statement.maxValues) outer (call.action limit) =
          machine.perform environment outer (call.action limit)) ∧
      (9362 < call.lineCount →
        (∀ order, (machine.perform (environment.withCapacity Statement.maxValues) outer
            (call.action limit)).2 ≠ .finished (.order (.ok order))) ∧
          (machine.perform (environment.withCapacity Statement.maxValues) outer
            (call.action limit)).1.tables = machine.tables) := by
  have room : 8 ≤ Statement.maxValues := by decide
  have most : 7 * call.lineCount ≤ Statement.maxValues ↔ call.lineCount ≤ 9362 := by
    unfold Statement.maxValues
    omega
  refine ⟨?_, fun few => call.perform_of_lines room (most.mpr few), fun many => ?_⟩
  · rw [program_action, call.fits_iff room, most]
  · exact call.perform_of_crowded room (Nat.not_le.mp fun few => Nat.not_le.mpr many (most.mp few))

/-- On a stocked machine nothing but their number can keep many lines from being ordered. -/
theorem perform_bulk [Collation] {count : Nat} (few : count + 4 ≤ twoTo 56) :
    ∃ order, (Machine.perform .sample none ((createOrder (some (.bulk count))).action none) .stocked).2 =
      .finished (.order (.ok order)) := by
  have line : ∀ wish, some wish ∈ (NewOrder.bulk count).items → wish = ⟨.numbered 11, 1⟩ :=
    fun wish member => Option.some.inj (List.eq_of_mem_replicate member)
  have size : (NewOrder.bulk count).items.length = count := List.length_replicate
  obtain ⟨after, result, performed, creates⟩ := @OrderStore.creates .sample none none (.bulk count)
    .stocked _ (fun _ _ => rfl) rfl (Action.inTime_of_prompt (fun _ => rfl) _ _ _) sound_shop
    (fun wish member => line wish member ▸ Int.le_refl 1) 2 (count + 4) (freshIn_shop few) (Nat.le_refl 2)
    (by rw [size, show Machine.stocked.ids = 2 from rfl]; omega)
  obtain ⟨order, rfl⟩ := creates.exists_order (by decide : shop.Has .accounts (.numbered 10))
    fun wish member => line wish member ▸ (by decide : shop.Has .items (.numbered 11))
  refine ⟨order, ?_⟩
  rw [action, Machine.perform_map, performed]
  rfl

/-- Both happen on the stocked machine, where without the limit either order is made: the one to an order
with 9362 lines, the other to an order with one line more. -/
theorem lines_up_to_capacity_bulk :
    (∀ count ∈ [9362, 9363], ∃ order, (Machine.perform .sample none
        ((createOrder (some (.bulk count))).action none) .stocked).2 = .finished (.order (.ok order))) ∧
      Machine.perform (Environment.withCapacity Statement.maxValues .sample) none
        ((createOrder (some (.bulk 9362))).action none) .stocked =
        Machine.perform .sample none ((createOrder (some (.bulk 9362))).action none) .stocked ∧
      ¬ ((createOrder (some (.bulk 9363))).action none).program.Sends
        (Statement.Fits Statement.maxValues) ∧
      ∀ order, (Machine.perform (Environment.withCapacity Statement.maxValues .sample) none
        ((createOrder (some (.bulk 9363))).action none) .stocked).2 ≠ .finished (.order (.ok order)) := by
  have few := lines_up_to_capacity .sample none none .stocked (createOrder (some (.bulk 9362)))
  have many := lines_up_to_capacity .sample none none .stocked (createOrder (some (.bulk 9363)))
  rw [NewOrder.lineCount_bulk] at few many
  refine ⟨?_, few.2.1 (by decide), many.1.not.mpr (by decide), (many.2.2 (by decide)).1⟩
  simp only [List.forall_mem_cons, List.not_mem_nil, false_imp_iff, implies_true, and_true]
  exact ⟨perform_bulk (by decide), perform_bulk (by decide)⟩

end Performed

end StoreCall

end Storefront
