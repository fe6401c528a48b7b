/-
**Orders with many lines.**

Nothing between a client and the stores counts the lines of an order.  A body may have two mebibytes, which
is room for more lines than one statement can add.  So there are wishes that are let through, and that a
database without a limit for the values of a statement grants, but that are never granted by one with the
limit.

Main statements:

* `App.respond_of_crowded`: a wish for too many lines is not granted, and nothing is kept of it;
* `OrderCommand.body_bulk`: a wish for any number of lines is let through as long as its body is not too
  large.
-/

import Mathlib.Data.Bool.AllAny
import Storefront.Proofs.Http.Identifiers
import Storefront.Proofs.Http.Orders
import Storefront.Proofs.Order.Written
import Storefront.Proofs.Store.Batches

namespace Storefront

open Storefront.Json Storefront.Text

/-! ### Plain texts as bytes -/

namespace Text.Utf8

/-- The bytes of a text of ASCII characters. -/
def asciiBytes (cs : List Char) : List UInt8 := cs.map fun c => UInt8.ofNat c.toNat

/-- A text of ASCII characters is read from its bytes. -/
theorem symbols_asciiBytes {cs : List Char} (ascii : ∀ c ∈ cs, c.toNat < 0x80) :
    symbols (asciiBytes cs) = cs.map some := by
  have feeds : ∀ found, (asciiBytes cs).foldl Progress.feed ⟨found, none⟩ =
      ⟨(cs.map some).reverse ++ found, none⟩ := by
    induction cs with
    | nil => exact fun found => rfl
    | cons c cs ih =>
      obtain ⟨small, others⟩ := List.forall_mem_cons.mp ascii
      intro found
      have byte : (UInt8.ofNat c.toNat).toNat = c.toNat := by
        rw [UInt8.toNat_ofNat']
        omega
      have first : Progress.feed ⟨found, none⟩ (UInt8.ofNat c.toNat) = ⟨some c :: found, none⟩ := by
        unfold Progress.feed Progress.begin start
        dsimp only
        rw [byte, if_pos small, Char.ofNat_toNat]
      rw [asciiBytes, List.map_cons, List.foldl_cons, first]
      refine (ih others _).trans ?_
      rw [List.map_cons, List.reverse_cons, List.append_assoc]
      rfl
  unfold symbols
  rw [feeds, Progress.finish, List.append_nil, List.reverse_reverse]

end Text.Utf8

/-! ### Repeated elements -/

namespace Json.Value

theorem elementChars_replicate (count : Nat) (value : Value) :
    elementChars (List.replicate count value) =
      (List.replicate count (',' :: value.chars)).flatten ++ [']'] := by
  induction count with
  | zero => rw [List.replicate_zero, elementChars]; rfl
  | succ count ih =>
    rw [List.replicate_succ, elementChars, ih, List.replicate_succ, List.flatten_cons, List.append_assoc,
      List.cons_append]

/-- A list of equal elements, one at least. -/
theorem chars_replicate {count : Nat} (positive : 0 < count) (value : Value) :
    (array (List.replicate count value)).chars =
      '[' :: (value.chars ++ ((List.replicate (count - 1) (',' :: value.chars)).flatten ++ [']'])) := by
  obtain ⟨others, rfl⟩ := Nat.exists_eq_add_one.mpr positive
  rw [List.replicate_succ, chars, elementChars_replicate, Nat.add_sub_cancel]

end Json.Value

/-! ### Wishes for many lines -/

/-- A line of a wish for many: one piece of the same item. -/
def LineCommand.single : LineCommand := ⟨"00000000-0000-4000-8000-00000000000b", 1⟩

/-- How the line is written. -/
def LineCommand.written : Value := LineForm.json id LineCommand.single

/-- A wish for so many lines. -/
def OrderCommand.bulk (count : Nat) : OrderCommand where
  accountId := "00000000-0000-4000-8000-00000000000a"
  items := List.replicate count (some LineCommand.single)

/-- The request that posts the wish. -/
def Request.bulk (count : Nat) : Request where
  method := "POST"
  target := "/api/v1/order"
  headers := [("content-type", "application/json")]
  body := Utf8.asciiBytes ((OrderCommand.bulk count).json id).chars

namespace OrderCommand

/-- What stands in front of the lines. -/
def bulkFront : List Char :=
  '\x7b' :: (Literal.chars "account_id".toList ++ ':' ::
    (Literal.chars "00000000-0000-4000-8000-00000000000a".toList ++ ',' ::
      (Literal.chars "items".toList ++ [':'])))

theorem chars_bulk (count : Nat) : ((bulk count).json id).chars =
    bulkFront ++ ((Value.array (List.replicate count LineCommand.written)).chars ++ ['\x7d']) := by
  have lines : (bulk count).items.map (Value.optional (LineForm.json id)) =
      List.replicate count LineCommand.written := List.map_replicate
  unfold OrderForm.json
  rw [lines, Value.chars, Value.memberChars, Value.chars, Value.membersChars, Value.memberChars,
    Value.membersChars, bulkFront]
  simp only [List.append_assoc, List.cons_append, List.nil_append]
  rfl

theorem length_bulkFront : bulkFront.length = 61 := by decide +kernel

theorem length_written : LineCommand.written.chars.length = 63 := by decide +kernel

theorem length_body_bulk {count : Nat} (positive : 0 < count) :
    (Request.bulk count).body.length = 64 * count + 63 := by
  have lines : (List.replicate (count - 1) (',' :: LineCommand.written.chars)).flatten.length =
      (count - 1) * 64 := by
    simp [length_written]
  change (Utf8.asciiBytes _).length = _
  rw [Utf8.asciiBytes, List.length_map, chars_bulk, Value.chars_replicate positive]
  simp only [List.length_append, List.length_cons, List.length_nil, length_bulkFront, length_written, lines]
  omega

theorem ascii_bulk {count : Nat} (positive : 0 < count) :
    ∀ c ∈ ((bulk count).json id).chars, c.toNat < 0x80 := by
  have front : ∀ c ∈ bulkFront, c.toNat < 0x80 :=
    List.all_iff_forall_prop.mp (by decide +kernel)
  have line : ∀ c ∈ LineCommand.written.chars, c.toNat < 0x80 :=
    List.all_iff_forall_prop.mp (by decide +kernel)
  have lines : ∀ c ∈ (List.replicate (count - 1) (',' :: LineCommand.written.chars)).flatten,
      c.toNat < 0x80 := by
    intro c member
    obtain ⟨text, repeated, inside⟩ := List.mem_flatten.mp member
    rw [List.eq_of_mem_replicate repeated] at inside
    rcases List.mem_cons.mp inside with rfl | inside
    · decide
    · exact line c inside
  rw [chars_bulk, Value.chars_replicate positive]
  simp only [List.forall_mem_append, List.forall_mem_cons]
  exact ⟨front, ⟨by decide, line, lines, by decide, List.forall_mem_nil _⟩, by decide,
    List.forall_mem_nil _⟩

/-- **A wish for any number of lines is let through**, as long as its body is not too large. -/
theorem body_bulk {count : Nat} (positive : 0 < count)
    (fits : (Request.bulk count).body.length ≤ Extract.maxBodySize) :
    Extract.body OrderCommand.decode (.bulk count) = .ok (bulk count) := by
  have countable : (bulk count).Countable := by
    intro line member
    have same : some line = some LineCommand.single := List.eq_of_mem_replicate member
    cases same
    decide
  have json : MediaType.isJson "application/json" = true := by decide +kernel
  refine Extract.body_ok_iff.mpr ⟨json, fits, ?_⟩
  change Json.read _ (Utf8.symbols (Utf8.asciiBytes _)) = _
  rw [Utf8.symbols_asciiBytes (ascii_bulk positive)]
  exact OrderForm.read_json _ _ (fun _ => rfl) countable

/-- It means an order with so many lines. -/
theorem means_bulk (count : Nat) : (bulk count).Means (.bulk count) := by
  have line : LineCommand.Means .single ⟨.numbered 11, 1⟩ :=
    ⟨by decide, rfl, by unfold Uuid.Spells; decide +kernel⟩
  have account : Uuid.Spells "00000000-0000-4000-8000-00000000000a" (.numbered 10) := by
    unfold Uuid.Spells
    decide +kernel
  refine ⟨account, ?_⟩
  unfold bulk NewOrder.bulk
  dsimp only
  induction count with
  | zero => exact .nil
  | succ count ih => exact .cons (.some line) ih

end OrderCommand

theorem Request.posts_bulk (count : Nat) : (bulk count).Posts "/api/v1/order" := by
  refine ⟨rfl, ?_⟩
  change (Request.mk "POST" "/api/v1/order" [] []).path = _
  decide +kernel

/-! ### Responses -/

namespace App

variable {limit : Option Duration} {app : App} {environment : Environment} {request : Request}
  {machine : Machine} {command : OrderCommand} {input : NewOrder}

/-- **A wish for too many lines is not granted, and nothing is kept of it.** -/
theorem respond_of_crowded [Collation] (services : app.services = .inDatabase limit)
    (posts : request.Posts "/api/v1/order")
    (read : Extract.body OrderCommand.decode request = .ok command) (means : command.Means input)
    (crowded : Statement.maxValues < 7 * (Order.numberLines input).length) :
    (app.respond (environment.withCapacity Statement.maxValues) request machine).2.status ≠ 201 ∧
      (app.respond (environment.withCapacity Statement.maxValues) request machine).1.tables =
        machine.tables := by
  have other : request.method ≠ "OPTIONS" := by rw [posts.1]; decide
  obtain ⟨after, status, _⟩ := @respond_eq app (environment.withCapacity Statement.maxValues) request
    machine _ other
  rw [after, status, attend, dispatch_order services posts read, OrderCommand.toNew_eq_ok_iff.mpr means]
  change (conclude (Machine.perform _ _
      (StoreAnswer.response 201 <$> (StoreAnswer.order <$> _)) _).2).status ≠ 201 ∧
    (Machine.perform _ _ (StoreAnswer.response 201 <$> (StoreAnswer.order <$> _)) _).1.tables = _
  rw [Machine.perform_map, Machine.perform_map]
  generalize performed : Machine.perform _ _ ((OrderStore.inDatabase limit).create (some input)) _ = result
  obtain ⟨left, ending⟩ := result
  obtain ⟨never, same⟩ := OrderStore.create_of_crowded (by decide) crowded performed
  refine ⟨?_, same.trans tables_requestId⟩
  cases ending with
  | finished result =>
    cases result with
    | ok order => exact absurd rfl (never order)
    | error cause =>
      intro created
      cases cause <;> cases created
  | abandoned =>
    intro created
    cases created
  | crashed =>
    intro created
    cases created

/-- The wish for many lines is granted in the shop, by a database that takes any number of values. -/
theorem respond_bulk [Collation] {count : Nat} (services : app.services = .inDatabase limit)
    (positive : 0 < count) (few : count + 4 ≤ twoTo 56)
    (fits : (Request.bulk count).body.length ≤ Extract.maxBodySize) :
    (app.respond .sample (.bulk count) { tables := shop, ids := 2 }).2.status = 201 := by
  have means := OrderCommand.means_bulk count
  have line : ∀ wish, some wish ∈ (NewOrder.bulk count).items → wish = ⟨.numbered 11, 1⟩ :=
    fun wish member => Option.some.inj (List.eq_of_mem_replicate member)
  have size : (NewOrder.bulk count).items.length = count := List.length_replicate
  obtain ⟨started, below⟩ := @ids_requestId .sample (.bulk count) { tables := shop, ids := 2 }
  obtain ⟨left, result, performed, creates⟩ := @OrderStore.creates .sample (some app.limit) limit
    (.bulk count) (requestId .sample (.bulk count) { tables := shop, ids := 2 }).1 _
    (fun _ _ => rfl) pool_requestId (Action.inTime_of_prompt (fun _ => rfl) _ _ _)
    (tables_requestId.symm ▸ sound_shop) (fun wish member => line wish member ▸ Int.le_refl 1) 2 (count + 4)
    (tables_requestId.symm ▸ freshIn_shop few) started (by dsimp only at below; omega)
  obtain ⟨_, status, body⟩ := respond_createOrder services (Request.posts_bulk _)
    (OrderCommand.body_bulk positive fits) means performed
  rw [tables_requestId] at creates
  refine (outcome_of_creates means creates status body).status_eq_created.mpr
    ⟨_, means, (by decide : shop.Has .accounts (.numbered 10)), fun wish member => ?_⟩
  rw [line wish member]
  decide

/-- A wish for one line more than a statement can hold is let through, and granted by a database that takes
any number of values, but not by one that takes so many. -/
theorem bulk_beyond_capacity :
    (Request.bulk 9363).body.length ≤ Extract.maxBodySize ∧
      Extract.body OrderCommand.decode (.bulk 9363) = .ok (.bulk 9363) ∧
      (OrderCommand.bulk 9363).Means (.bulk 9363) ∧
      ¬ (StoreCall.createOrder (some (.bulk 9363))).program.Sends (Statement.Fits Statement.maxValues) ∧
      ∃ app, build? {} none = some app ∧
        (app.respond .sample (.bulk 9363) { tables := shop, ids := 2 }).2.status = 201 ∧
        (app.respond (Environment.withCapacity Statement.maxValues .sample) (.bulk 9363)
          { tables := shop, ids := 2 }).2.status ≠ 201 := by
  have fits : (Request.bulk 9363).body.length ≤ Extract.maxBodySize := by
    rw [OrderCommand.length_body_bulk (by decide)]
    decide
  have read := OrderCommand.body_bulk (by decide) fits
  have means := OrderCommand.means_bulk 9363
  obtain ⟨app, built⟩ : ∃ app, build? {} none = some app := ⟨_, rfl⟩
  have services := services_of_build? built
  refine ⟨fits, read, means, fun sends => ?_, app, built,
    respond_bulk services (by decide) (by decide) fits, ?_⟩
  · rw [StoreCall.fits_iff _ (by decide), NewOrder.lineCount_bulk] at sends
    exact absurd sends (by decide)
  · refine (respond_of_crowded services (Request.posts_bulk _) read means ?_).1
    rw [Order.length_numberLines_bulk]
    decide

end App

end Storefront
