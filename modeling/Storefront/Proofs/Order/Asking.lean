/-
**What the order service asks of its store.**

For a wish without a fault the store is asked once, for the order that the wish means: line for line, and
with nothing where the wish has nothing.  For any other wish it is not asked at all, and the answer is the
first thing that is wrong: the lines are looked at in their order, the quantity of each before its item,
and the account after all of them.

This does not depend on what a store does when it is asked.  A store of any kind `m` is observed through
`Noted m`, which writes down the calls and leaves the rest to the store.

Main statements:

* `OrderCommand.toNew_eq_error_iff`: a wish is rejected for its first fault;
* `OrderService.create_asks_once`: what the store is asked, and what is made of its answer.
-/

import Storefront.Order.Service
import Storefront.Proofs.Order.Wishes
import Storefront.Proofs.Paging.Clause
import Storefront.Proofs.Store.Calls

namespace Storefront

open Storefront.Text

/-! ### Sound wishes and faults -/

namespace LineCommand

/-- There is nothing wrong with the line. -/
structure Sound (command : LineCommand) : Prop where
  enough : 1 ≤ command.quantity
  item : ∃ id, Uuid.Spells command.itemId id

/-- What is wrong with a line. An item is not looked at if the quantity is wrong. -/
inductive Fault (command : LineCommand) : Rejection → Prop
  | quantity (few : command.quantity < 1) : Fault command (.quantity command.quantity)
  | item {cause : Uuid.ReadError} (enough : 1 ≤ command.quantity)
      (unread : Uuid.read (trim command.itemId.toList) = .error cause) :
      Fault command (.identifier "item id" command.itemId cause)

end LineCommand

namespace OrderCommand

/-- There is nothing wrong with the wish. -/
structure Sound (command : OrderCommand) : Prop where
  lines : ∀ line : LineCommand, some line ∈ command.items → line.Sound
  account : ∃ id, Uuid.Spells command.accountId id

/-- What is wrong with a wish first. The account is not looked at if a line is wrong. -/
inductive Fault (command : OrderCommand) : Rejection → Prop
  | line {before after : List (Option LineCommand)} {line : LineCommand} {cause : Rejection}
      (split : command.items = before ++ some line :: after)
      (sound : ∀ earlier : LineCommand, some earlier ∈ before → earlier.Sound)
      (fault : line.Fault cause) :
      Fault command cause
  | account {cause : Uuid.ReadError}
      (sound : ∀ line : LineCommand, some line ∈ command.items → line.Sound)
      (unread : Uuid.read (trim command.accountId.toList) = .error cause) :
      Fault command (.identifier "account id" command.accountId cause)

/-- The order has a line with the quantity and the item of each line of the wish, in the same place, and
nothing where the wish has nothing. -/
structure Matches (command : OrderCommand) (input : NewOrder) : Prop where
  account : Uuid.Spells command.accountId input.accountId
  length : input.items.length = command.items.length
  empty : ∀ place : Nat, input.items[place]? = some none ↔ command.items[place]? = some none
  line : ∀ (place : Nat) (line : LineCommand), command.items[place]? = some (some line) →
    ∃ item, Uuid.Spells line.itemId item ∧ input.items[place]? = some (some ⟨item, line.quantity⟩)

end OrderCommand

/-! ### The fault that is reported -/

namespace LineCommand

variable {command : LineCommand} {cause : Rejection}

theorem exists_toNew_iff : (∃ line, command.toNew = .ok line) ↔ command.Sound := by
  simp only [toNew_eq_ok_iff]
  constructor
  · rintro ⟨line, means⟩
    exact ⟨means.enough, line.itemId, means.item⟩
  · rintro ⟨enough, id, item⟩
    exact ⟨⟨id, command.quantity⟩, enough, rfl, item⟩

/-- A line is rejected for what is wrong with it. -/
theorem toNew_eq_error_iff : command.toNew = .error cause ↔ command.Fault cause := by
  unfold toNew
  simp only [bind_eq_error_iff, Rejection.requireQuantity_eq_error_iff, Rejection.readId_eq_error_iff,
    Rejection.requireQuantity_eq_ok_iff]
  constructor
  · rintro (⟨few, rfl⟩ | ⟨_, enough, ⟨unread, refused, rfl⟩ | ⟨_, _, made⟩⟩)
    · exact .quantity few
    · exact .item enough refused
    · cases made
  · rintro (few | ⟨enough, refused⟩)
    · exact .inl ⟨few, rfl⟩
    · exact .inr ⟨(), enough, .inl ⟨_, refused, rfl⟩⟩

/-- What is made of a line, and of nothing. -/
def toNew? : Option LineCommand → Except Rejection (Option NewLine)
  | none => .ok none
  | some command => some <$> command.toNew

theorem allToNew_eq_mapM (commands : List (Option LineCommand)) :
    allToNew commands = commands.mapM toNew? := by
  fun_induction allToNew commands with
  | case1 => rfl
  | case2 rest ih => rw [List.mapM_cons, ih]; rfl
  | case3 command rest ih =>
    rw [List.mapM_cons, ih, toNew?]
    cases command.toNew with
    | error cause => rfl
    | ok line => rfl

theorem toNew?_eq_error_iff {wish : Option LineCommand} :
    toNew? wish = .error cause ↔ ∃ line : LineCommand, wish = some line ∧ line.Fault cause := by
  cases wish with
  | none => exact ⟨nofun, fun ⟨_, same, _⟩ => nomatch same⟩
  | some line =>
    have mapped : toNew? (some line) = .error cause ↔ line.toNew = .error cause := by
      cases made : line.toNew <;> simp [toNew?, made, Functor.map, Except.map]
    rw [mapped, toNew_eq_error_iff]
    simp

theorem exists_toNew?_iff {wish : Option LineCommand} :
    (∃ line, toNew? wish = .ok line) ↔ ∀ line : LineCommand, wish = some line → line.Sound := by
  cases wish with
  | none => exact ⟨fun _ => nofun, fun _ => ⟨none, rfl⟩⟩
  | some line =>
    have mapped : (∃ made, toNew? (some line) = .ok made) ↔ ∃ made, line.toNew = .ok made := by
      cases made : line.toNew <;> simp [toNew?, made, Functor.map, Except.map]
    rw [mapped, exists_toNew_iff]
    simp

/-- Lines are rejected for what is wrong with the first of them that is not sound. -/
theorem allToNew_eq_error_iff {commands : List (Option LineCommand)} :
    allToNew commands = .error cause ↔
      ∃ (before : List (Option LineCommand)) (line : LineCommand) (after : List (Option LineCommand)),
        commands = before ++ some line :: after ∧
      (∀ earlier : LineCommand, some earlier ∈ before → earlier.Sound) ∧ line.Fault cause := by
  rw [allToNew_eq_mapM, mapM_eq_error_iff]
  simp only [toNew?_eq_error_iff, exists_toNew?_iff]
  constructor
  · rintro ⟨before, _, after, rfl, sound, line, rfl, fault⟩
    exact ⟨before, line, after, rfl, fun earlier member => sound _ member earlier rfl, fault⟩
  · rintro ⟨before, line, after, rfl, sound, fault⟩
    exact ⟨before, some line, after, rfl, fun _ member earlier same => sound earlier (same ▸ member),
      line, rfl, fault⟩

end LineCommand

namespace OrderCommand

variable {command : OrderCommand} {input : NewOrder} {cause : Rejection}

theorem sound_iff : command.Sound ↔ ¬ command.Faulty := by
  constructor
  · rintro ⟨lines, account⟩ (⟨line, member, few | malformed⟩ | malformed)
    · exact absurd (lines line member).enough (by omega)
    · exact Uuid.exists_spells_iff.mp (lines line member).item malformed
    · exact Uuid.exists_spells_iff.mp account malformed
  · intro sound
    refine ⟨fun line member => ⟨?_, ?_⟩, ?_⟩
    · by_contra few
      exact sound (.inl ⟨line, member, .inl (by omega)⟩)
    · exact Uuid.exists_spells_iff.mpr fun malformed => sound (.inl ⟨line, member, .inr malformed⟩)
    · exact Uuid.exists_spells_iff.mpr fun malformed => sound (.inr malformed)

/-- **A wish is rejected for its first fault.** -/
theorem toNew_eq_error_iff : command.toNew = .error cause ↔ command.Fault cause := by
  have accepted : (∃ items, LineCommand.allToNew command.items = .ok items) ↔
      ∀ line : LineCommand, some line ∈ command.items → line.Sound := by
    constructor
    · rintro ⟨items, read⟩ line member
      obtain ⟨_, _, related⟩ := exists_of_forall₂ (LineCommand.allToNew_eq_ok_iff.mp read) member
      cases related with
      | some means => exact ⟨means.enough, _, means.item⟩
    · intro sound
      cases read : LineCommand.allToNew command.items with
      | ok items => exact ⟨items, rfl⟩
      | error other =>
        obtain ⟨before, line, after, split, _, fault⟩ := LineCommand.allToNew_eq_error_iff.mp read
        have member : some line ∈ command.items := split ▸ List.mem_append_right _ List.mem_cons_self
        obtain ⟨made, read⟩ := LineCommand.exists_toNew_iff.mpr (sound line member)
        rw [LineCommand.toNew_eq_error_iff.mpr fault] at read
        cases read
  unfold toNew
  simp only [bind_eq_error_iff, Rejection.readId_eq_error_iff]
  constructor
  · rintro (refused | ⟨items, read, ⟨unread, refused, rfl⟩ | ⟨_, _, made⟩⟩)
    · obtain ⟨before, line, after, split, sound, fault⟩ := LineCommand.allToNew_eq_error_iff.mp refused
      exact .line split sound fault
    · exact .account (accepted.mp ⟨items, read⟩) refused
    · cases made
  · rintro (⟨split, sound, fault⟩ | ⟨sound, refused⟩)
    · exact .inl (LineCommand.allToNew_eq_error_iff.mpr ⟨_, _, _, split, sound, fault⟩)
    · obtain ⟨items, read⟩ := accepted.mpr sound
      exact .inr ⟨items, read, .inl ⟨_, refused, rfl⟩⟩

/-- A wish has one first fault only. -/
theorem Fault.unique {other : Rejection} (fault : command.Fault cause) (others : command.Fault other) :
    cause = other :=
  Except.error.inj ((toNew_eq_error_iff.mpr fault).symm.trans (toNew_eq_error_iff.mpr others))

/-- A wish either means an order and is sound, or it has a fault and is not. -/
theorem means_or_fault (command : OrderCommand) :
    (∃ input, command.Means input ∧ command.Sound) ∨
      ∃ cause, command.Fault cause ∧ ¬ command.Sound := by
  cases read : command.toNew with
  | ok input =>
    have means := toNew_eq_ok_iff.mp read
    exact .inl ⟨input, means, sound_iff.mpr means.not_faulty⟩
  | error cause =>
    refine .inr ⟨cause, toNew_eq_error_iff.mp read, fun sound => ?_⟩
    obtain ⟨input, means⟩ := exists_means_iff.mpr (sound_iff.mp sound)
    rw [toNew_eq_ok_iff.mpr means] at read
    cases read

/-- The order that a wish means matches it place by place. -/
theorem Means.matches (means : command.Means input) : command.Matches input := by
  have related : ∀ place : Nat,
      Option.Rel (Option.Rel LineCommand.Means) command.items[place]? input.items[place]? := by
    have all := means.lines
    generalize command.items = wishes at all
    generalize input.items = lines at all
    induction all with
    | nil => exact fun place => .none
    | cons here _ ih =>
      intro place
      cases place with
      | zero => exact .some here
      | succ place => exact ih place
  refine ⟨means.account, means.lines.length_eq.symm, fun place => ?_, fun place line wished => ?_⟩
  · have here := related place
    generalize command.items[place]? = wish at here ⊢
    generalize input.items[place]? = line at here ⊢
    cases here with
    | none => simp
    | some inner => cases inner <;> simp
  · have here := related place
    rw [wished] at here
    generalize input.items[place]? = found at here ⊢
    cases here with
    | some inner =>
      cases inner with
      | @some _ made means => exact ⟨made.itemId, means.item, by rw [← means.quantity]⟩

end OrderCommand

/-! ### Stores whose calls are written down -/

/-- Something that is done with a store, and the calls that the store receives for it. -/
structure Noted (m : Type → Type) (α : Type) where
  calls : List StoreCall
  action : m α

variable {m : Type → Type} [Functor m] [Pure m]

instance : Pure (Noted m) := ⟨fun result => ⟨[], pure result⟩⟩

instance : Functor (Noted m) := { map := fun f noted => ⟨noted.calls, f <$> noted.action⟩ }

/-- A store that is asked as before, and whose calls are written down. -/
def OrderStore.noting (store : OrderStore m) : OrderStore (Noted m) where
  byId id := ⟨[.orderById id], store.byId id⟩
  search accountId request := ⟨[.orderSearch accountId request], store.search accountId request⟩
  create input := ⟨[.createOrder input], store.create input⟩

namespace OrderService

/-- Writing the calls down does not change what is done. -/
theorem create_noting_action (store : OrderStore m) (command : OrderCommand) :
    (create store.noting command).action = create store command := by
  unfold create
  cases command.toNew with
  | error cause => rfl
  | ok input => rfl

/-- The store is asked for the order that the wish means. -/
theorem create_noting_of_means (store : OrderStore m) {command : OrderCommand} {input : NewOrder}
    (means : command.Means input) :
    create store.noting command = ⟨[.createOrder (some input)],
      ServiceError.consult ("failed to create order for account: " ++ input.accountId.text) <$>
        store.create (some input)⟩ :=
  create_accepted (OrderCommand.toNew_eq_ok_iff.mpr means)

/-- A wish with a fault is rejected for it, and the store is not asked. -/
theorem create_noting_of_fault (store : OrderStore m) {command : OrderCommand} {cause : Rejection}
    (fault : command.Fault cause) :
    create store.noting command = ⟨[], pure (.error (.rejected cause))⟩ :=
  create_rejected (OrderCommand.toNew_eq_error_iff.mpr fault)

/-- **The store is asked once, or not at all.**  Of a sound wish it is asked for the order that matches
the wish, and what it answers comes back, an error with what was being done.  Any other wish is rejected
for its first fault before the store is asked. -/
theorem create_asks_once (store : OrderStore m) (command : OrderCommand) :
    (create store.noting command).action = create store command ∧
    (∀ context (order : Order), ServiceError.consult context (.ok order) = .ok order) ∧
    (∀ context cause, ∃ error,
      (ServiceError.consult context (.error cause) : Except ServiceError Order) = .error error ∧
        error.storeError? = some cause) ∧
    (create store.noting command).calls.length ≤ 1 ∧
    ((create store.noting command).calls ≠ [] ↔ command.Sound) ∧
    (command.Sound → ∃ input, command.Matches input ∧
      create store.noting command = ⟨[.createOrder (some input)],
        ServiceError.consult ("failed to create order for account: " ++ input.accountId.text) <$>
          store.create (some input)⟩) ∧
    (¬ command.Sound → ∃ cause, command.Fault cause ∧
      (∀ other, command.Fault other → other = cause) ∧
      create store.noting command = ⟨[], pure (.error (.rejected cause))⟩) := by
  refine ⟨create_noting_action store command, fun _ _ => rfl, fun _ _ => ⟨_, rfl, rfl⟩, ?_⟩
  obtain ⟨input, means, sound⟩ | ⟨cause, fault, unsound⟩ := command.means_or_fault
  · rw [create_noting_of_means store means]
    exact ⟨le_rfl, by simp [sound], fun _ => ⟨input, means.matches, rfl⟩,
      fun unsound => absurd sound unsound⟩
  · rw [create_noting_of_fault store fault]
    exact ⟨Nat.zero_le _, by simp [unsound], fun sound => absurd sound unsound,
      fun _ => ⟨cause, fault, fun other others => others.unique fault, rfl⟩⟩

/-- A store that never answers in time. -/
def slowStore : OrderStore Action where
  byId _ := .answered (.error (.timeout (.ofSeconds 1)))
  search _ _ := .answered (.error (.timeout (.ofSeconds 1)))
  create _ := .answered (.error (.timeout (.ofSeconds 1)))

/-- A wish for two lines with nothing between them. -/
def gappedWish : OrderCommand where
  accountId := "00000000-0000-4000-8000-00000000000a"
  items := [some ⟨" 00000000-0000-4000-8000-00000000000b ", 3⟩, none,
    some ⟨"00000000-0000-4000-8000-00000000000c", 1⟩]

/-- A wish in which everything is wrong but the first line. -/
def brokenWish : OrderCommand where
  accountId := "nobody"
  items := [some ⟨"00000000-0000-4000-8000-00000000000b", 1⟩, none, some ⟨"nothing", 0⟩,
    some ⟨"nothing", -1⟩]

/-- The first wish is handed over with its gap, and of the faults of the second one the quantity of the
third line is reported. -/
theorem create_asks_once_gapped :
    (∃ input, (create slowStore.noting gappedWish).calls = [.createOrder (some input)] ∧
      input.items.length = 3 ∧ input.items[1]? = some none ∧
      input.items[0]? = some (some ⟨.numbered 11, 3⟩)) ∧
    create slowStore.noting brokenWish = ⟨[], .answered (.error (.rejected (.quantity 0)))⟩ := by
  have spelled : ∀ raw ∈ ["00000000-0000-4000-8000-00000000000a",
      " 00000000-0000-4000-8000-00000000000b ", "00000000-0000-4000-8000-00000000000b",
      "00000000-0000-4000-8000-00000000000c"], ∃ id, Uuid.Spells raw id := by
    simp only [List.forall_mem_cons, Uuid.Spells]
    exact ⟨⟨.numbered 10, by decide +kernel⟩, ⟨.numbered 11, by decide +kernel⟩,
      ⟨.numbered 11, by decide +kernel⟩, ⟨.numbered 12, by decide +kernel⟩, List.forall_mem_nil _⟩
  have sound : gappedWish.Sound := by
    refine ⟨fun line member => ?_, spelled _ (by decide)⟩
    simp only [gappedWish, List.mem_cons, Option.some.injEq, reduceCtorEq, List.not_mem_nil, or_false,
      false_or] at member
    rcases member with rfl | rfl
    · exact ⟨by decide, spelled _ (by decide)⟩
    · exact ⟨by decide, spelled _ (by decide)⟩
  have fault : brokenWish.Fault (.quantity 0) := by
    have split : brokenWish.items = [some ⟨"00000000-0000-4000-8000-00000000000b", 1⟩, none] ++
        some ⟨"nothing", 0⟩ :: [some ⟨"nothing", -1⟩] := rfl
    refine .line split (fun earlier member => ?_) (.quantity (by decide))
    simp only [List.mem_cons, Option.some.injEq, reduceCtorEq, List.not_mem_nil, or_false] at member
    subst member
    exact ⟨by decide, spelled _ (by decide)⟩
  have unsound : ¬ brokenWish.Sound := fun sound =>
    absurd (sound.lines ⟨"nothing", 0⟩ (by decide)).enough (by decide)
  obtain ⟨-, -, -, -, -, handed, -⟩ := create_asks_once slowStore gappedWish
  obtain ⟨-, -, -, -, -, -, refused⟩ := create_asks_once slowStore brokenWish
  obtain ⟨input, same, asked⟩ := handed sound
  obtain ⟨cause, _, only, rejected⟩ := refused unsound
  obtain ⟨item, spells, line⟩ := same.line 0 _ rfl
  have read : Uuid.Spells " 00000000-0000-4000-8000-00000000000b " (.numbered 11) := by
    unfold Uuid.Spells
    decide +kernel
  obtain rfl : item = .numbered 11 := Except.ok.inj (spells.symm.trans read)
  exact ⟨⟨input, congrArg Noted.calls asked, same.length, (same.empty 1).mpr rfl, line⟩,
    only _ fault ▸ rejected⟩

end OrderService

end Storefront
