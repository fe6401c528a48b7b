/-
**What is made is found again.**

A call that makes an account, an item or an order, or a request that does, returns what is stored.
An account and an item are read from the row that has been added.  An order is put together by the
program and never read back; it is what its rows keep because every moment in it is one of the
clock's, in whole microseconds.

Main statements:

* `StoreCall.program_makes`: what a call has added when it returns an entity;
* `Machine.storedIn_of_created`: the rows of the entity are in the tables then;
* `Machine.created_stays`: so it is found right afterwards and ever after.
-/

import Storefront.Proofs.Http.Frame
import Storefront.Proofs.Store.Entities

namespace Storefront

/-! ### What has been made -/

/-- Is this a call that makes something? -/
def StoreCall.Creates : StoreCall → Prop
  | .createAccount _ | .createItem _ | .createOrder _ => True
  | _ => False

/-- What a call has added that has made an entity. -/
def StoreCall.Made : StoreCall → Entity → Tables → Prop
  | .createAccount _, .account account, rows =>
    ∃ made : Account, rows = .only [made.kept] .accounts ∧ account = made.stored
  | .createItem _, .item item, rows =>
    ∃ made : Item, rows = .only [made.kept] .items ∧ item = made.stored
  | .createOrder (some input), .order order, rows => order.MadeFrom input ∧ rows = order.kept
  | _, _, _ => False

/-- The lines of the order are those that are asked for, without the empty ones, in order: each with
its own item and quantity, with the identifier of the order and the next position. -/
def Order.Lists (order : Order) (input : NewOrder) : Prop :=
  order.items.map (fun line => (line.orderId, line.itemId, line.quantity, line.position)) =
    (input.items.filterMap fun wish => wish).mapIdx fun position wish =>
      (order.id, wish.itemId, wish.quantity, (position : Int))

theorem Order.MadeFrom.lists {order : Order} {input : NewOrder} (made : order.MadeFrom input) :
    order.Lists input := by
  have content := congrArg (List.map fun said : Uuid × NewLine × Int =>
    (said.1, said.2.1.itemId, said.2.1.quantity, said.2.2)) (OrderLine.content_of_madeFrom made.lines)
  rw [List.map_map, List.map_map, numberLines, List.mapIdx_eq_zipIdx_map, List.map_map] at content
  rw [Lists, List.mapIdx_eq_zipIdx_map]
  exact content

/-- What a call has added when it returns an entity. -/
theorem StoreCall.program_makes [Collation] {call : StoreCall} (creates : call.Creates)
    (tables : Tables) :
    call.program.Keeps .anywhere
      (fun answer view => ∀ entity : Entity, answer = entity.answer → call.Made entity view.added)
      { tables := tables } := by
  cases call with
  | createAccount input =>
    refine Action.keeps_program_map.mpr ?_
    cases input with
    | none => exact fun entity same => by cases entity <;> cases same
    | some input =>
      refine (AccountStore.add_keeps input rfl).mono (fun _ _ _ => trivial) ?_
      intro result view kept entity same
      cases entity with
      | account account =>
        obtain ⟨made, added, read⟩ := kept account (StoreAnswer.account.inj same)
        rw [Account.kept_eq, Account.ofRow_row] at read
        exact ⟨made, added, (Except.ok.inj read).symm⟩
      | item item => cases same
      | order order => cases same
  | createItem input =>
    refine Action.keeps_program_map.mpr ?_
    cases input with
    | none => exact fun entity same => by cases entity <;> cases same
    | some input =>
      refine (ItemStore.add_keeps input rfl).mono (fun _ _ _ => trivial) ?_
      intro result view kept entity same
      cases entity with
      | account account => cases same
      | item item =>
        obtain ⟨made, added, read⟩ := kept item (StoreAnswer.item.inj same)
        rw [Item.kept_eq, Item.ofRow_row] at read
        exact ⟨made, added, (Except.ok.inj read).symm⟩
      | order order => cases same
  | createOrder input =>
    refine Action.keeps_program_map.mpr ?_
    cases input with
    | none => exact fun entity same => by cases entity <;> cases same
    | some input =>
      refine (OrderStore.add_keeps input tables).mono (fun _ _ _ => trivial) ?_
      intro result view kept entity same
      cases entity with
      | account account => cases same
      | item item => cases same
      | order order =>
        obtain rfl : result = .ok order := StoreAnswer.order.inj same
        exact ⟨kept.2.1, kept.2.2.1⟩
  | _ => cases creates

/-! ### The clock -/

/-- Every reading of the clock fits into a signed word of nanoseconds, so that it can be cut to whole
microseconds. -/
def Environment.Clocked (environment : Environment) : Prop :=
  ∀ count, (Text.IntegerRange.signed 64).contains (environment.clock count) = true

theorem Environment.Clocked.whole {environment : Environment} (clocked : environment.Clocked)
    (count : Nat) : (Timestamp.ofClock (environment.clock count)).Whole := by
  have cut : Timestamp.ofClock (environment.clock count) =
      ⟨environment.clock count - environment.clock count % 1000⟩ := by
    unfold Timestamp.ofClock
    rw [if_pos (clocked count)]
  rw [cut]
  exact Timestamp.stored_of_dvd (Int.dvd_self_sub_emod)

namespace OrderStore

/-- The moments of the lines are the clock's. -/
theorem yields_makeLines {orderId : Uuid} {wishes : List (NewLine × Int)} :
    (makeLines orderId wishes).run.Yields Timestamp.Whole fun result =>
      ∀ lines, result = .ok lines → ∀ line ∈ lines, line.Timely := by
  induction wishes with
  | nil =>
    rintro _ ⟨⟩
    exact nofun
  | cons wish rest ih =>
    refine Operation.yields_bind.mpr fun now whole => ?_
    refine Operation.yields_bind_of_forall (fun id => ?_) (fun _ _ => nofun)
    refine Operation.yields_bind.mpr (ih.mono fun result timely => ?_)
    cases result with
    | error cause => exact fun _ => nofun
    | ok others =>
      rintro _ ⟨⟩ line member
      rcases List.mem_cons.mp member with rfl | later
      · exact ⟨whole, whole⟩
      · exact timely others rfl line later

/-- The moments of an order that is made are the clock's. -/
theorem yields_add (input : NewOrder) :
    (add input).run.Yields Timestamp.Whole fun result => ∀ order, result = .ok order → order.Timely := by
  have fails : ∀ cause (order : Order), (.error cause : Except StoreError Order) = .ok order →
      order.Timely := fun _ _ => nofun
  unfold add
  refine Operation.yields_bind_of_forall (fun _ => ?_) fails
  refine Operation.yields_bind.mpr fun now whole => ?_
  refine Operation.yields_bind_of_forall (fun id => ?_) fails
  refine Operation.yields_bind_of_forall (fun _ => ?_) fails
  refine Operation.yields_bind_of_forall (fun _ => ?_) fails
  refine Operation.yields_bind_of_forall (fun _ => ?_) fails
  refine Operation.yields_bind_of_forall (fun known => ?_) fails
  split
  · refine Operation.yields_bind_of_forall (fun _ => ?_) fails
    refine Operation.yields_bind.mpr (yields_makeLines.mono fun result timely => ?_)
    cases result with
    | error cause => exact fails cause
    | ok lines =>
      refine Operation.yields_bind_of_forall (fun _ => ?_) fails
      refine Operation.yields_bind_of_forall (fun _ => ?_) fails
      rintro _ ⟨⟩
      exact ⟨whole, whole, timely lines rfl⟩
  · exact Operation.yields_bind_of_forall (fun _ => fails _) fails

end OrderStore

/-- The moments of an order that a call has made are the clock's. -/
theorem StoreCall.yields_program {call : StoreCall} (creates : call.Creates) :
    call.program.Yields Timestamp.Whole fun answer =>
      ∀ order, answer = (Entity.order order).answer → order.Timely := by
  cases call with
  | createAccount input =>
    exact Action.yields_program_map.mpr (Program.yields_of_forall (fun _ _ => nofun) _)
  | createItem input =>
    exact Action.yields_program_map.mpr (Program.yields_of_forall (fun _ _ => nofun) _)
  | createOrder input =>
    refine Action.yields_program_map.mpr ?_
    cases input with
    | none => exact fun _ => nofun
    | some input =>
      exact (OrderStore.yields_add input).mono fun result timely order same =>
        timely order (StoreAnswer.order.inj same)
  | _ => cases creates

/-! ### What is stored -/

/-- An order has an identifier of its own among those that were there before. -/
theorem Tables.Distinct.new_order {tables : Tables} {order : Order}
    (distinct : (tables ++ order.kept).Distinct) :
    ∀ row ∈ tables.orders, row.get "id" ≠ .uuid order.id := by
  intro row member same
  have ids := distinct .orders
  rw [rows_append, List.map_append, List.nodup_append] at ids
  exact ids.2.2 _ (List.mem_map_of_mem member) _ (List.mem_singleton_self _) same

/-- The rows of an entity that has been made are in the tables then. -/
theorem Entity.storedIn_of_made {call : StoreCall} {entity : Entity} {tables rows : Tables}
    (sound : tables.Sound) (distinct : (tables ++ rows).Distinct) (made : call.Made entity rows)
    (timely : ∀ order, entity = .order order → order.Timely) : entity.StoredIn (tables ++ rows) := by
  cases entity with
  | account account =>
    cases call with
    | createAccount input =>
      obtain ⟨made, rfl, rfl⟩ := made
      rw [StoredIn, ← Account.kept_eq]
      exact List.mem_append_right _ (List.mem_singleton_self _)
    | createOrder input => cases input <;> cases made
    | _ => cases made
  | item item =>
    cases call with
    | createItem input =>
      obtain ⟨made, rfl, rfl⟩ := made
      rw [StoredIn, ← Item.kept_eq]
      exact List.mem_append_right _ (List.mem_singleton_self _)
    | createOrder input => cases input <;> cases made
    | _ => cases made
  | order order =>
    cases call with
    | createOrder input =>
      cases input with
      | none => cases made
      | some input =>
        obtain ⟨made, rfl⟩ := made
        have timely := timely order rfl
        refine ⟨made.numbered, ?_, ?_⟩
        · rw [← timely.header_eq]
          exact List.mem_append_right _ (List.mem_singleton_self _)
        · rw [← timely.map_kept]
          exact sound.filter_lines_eq made.numbered distinct.new_order
    | _ => cases made

/-! ### What is found -/

/-- What becomes of an entity that has been made: whatever is done later, it is found. -/
def Entity.Stays [Collation] (entity : Entity) (after : Machine) : Prop :=
  ∀ later, Relation.ReflTransGen Machine.Operated after later → entity.KeptBy later

section Stays

variable [Collation] {environment : Environment} {outer limit : Option Duration} {call : StoreCall}
  {entity : Entity} {before : Machine}

/-- What is stored stays. -/
theorem Entity.StoredIn.stays {after : Machine} (stored : entity.StoredIn after.tables)
    (sound : after.tables.Sound) : entity.Stays after := by
  intro later operated
  have grown : after.tables.Grown later.tables := by
    induction operated with
    | refl => exact Relation.ReflTransGen.refl
    | tail _ step ih => exact Relation.ReflTransGen.trans ih step.grown
  exact (stored.grown grown).kept (sound.distinct.grown grown)

/-- An entity that a call has made is what was asked for, and its rows are in the tables. -/
theorem Machine.storedIn_of_created (sound : before.tables.Sound) (clocked : environment.Clocked)
    (creates : call.Creates)
    (created : (before.perform environment outer (call.action limit)).2 = .finished entity.answer) :
    entity.StoredIn (before.perform environment outer (call.action limit)).1.tables ∧
      ∀ order, entity = .order order →
        ∃ input, call = .createOrder (some input) ∧ order.Lists input := by
  have own : ∀ other ∈ (call.action limit).standIn?, other ≠ entity.answer := by
    rintro other standIn rfl
    exact StoreCall.not_settled_standIn standIn entity.settled_answer
  have keeps := StoreCall.program_makes creates before.tables
  have yields := StoreCall.yields_program creates
  rw [← StoreCall.program_action limit] at keeps yields
  obtain ⟨view, made, tables⟩ := Machine.perform_finished keeps created own
  have made := made entity rfl
  have after : (before.perform environment outer (call.action limit)).1.tables.Sound :=
    sound.grown (Machine.Operated.call environment outer limit call).grown
  rw [tables] at after ⊢
  refine ⟨Entity.storedIn_of_made sound after.distinct made ?_, ?_⟩
  · rintro order rfl
    exact Machine.perform_yields clocked.whole yields created own order rfl
  · rintro order rfl
    cases call with
    | createOrder input =>
      cases input with
      | none => cases made
      | some input => exact ⟨input, rfl, made.1.lists⟩
    | _ => cases made

/-- A call that makes something answers with an entity or with an error. -/
theorem Machine.answer_of_creates {answer : StoreAnswer} (creates : call.Creates)
    (finished : (before.perform environment outer (call.action limit)).2 = .finished answer) :
    (∃ entity : Entity, answer = entity.answer) ∨
      ∃ cause, ∀ status, answer.response status = (ErrorAnswer.ofStore cause).response := by
  have kind : ∀ {α : Type} {action : Action (Except StoreError α)}
      {wrap : Except StoreError α → StoreAnswer},
      (before.perform environment outer (wrap <$> action)).2 = .finished answer →
        ∃ result, wrap result = answer := by
    intro α action wrap finished
    rw [perform_map] at finished
    obtain ⟨result, _, same⟩ := Ending.map_eq_finished_iff.mp finished
    exact ⟨result, same⟩
  cases call with
  | createAccount input =>
    obtain ⟨result, rfl⟩ := kind finished
    cases result with
    | ok account => exact Or.inl ⟨.account account, rfl⟩
    | error cause => exact Or.inr ⟨cause, fun _ => rfl⟩
  | createItem input =>
    obtain ⟨result, rfl⟩ := kind finished
    cases result with
    | ok item => exact Or.inl ⟨.item item, rfl⟩
    | error cause => exact Or.inr ⟨cause, fun _ => rfl⟩
  | createOrder input =>
    obtain ⟨result, rfl⟩ := kind finished
    cases result with
    | ok order => exact Or.inl ⟨.order order, rfl⟩
    | error cause => exact Or.inr ⟨cause, fun _ => rfl⟩
  | _ => cases creates

end Stays

/-! ### Requests -/

/-- An error of a store is never answered as if something had been made. -/
theorem ErrorAnswer.status_ofStore_ne (cause : StoreError) :
    (ErrorAnswer.ofStore cause).response.status ≠ 201 := by
  cases cause <;> simp [ofStore, refused, internal, ErrorAnswer.response, Response.ofJson]

theorem StoreAnswer.status_response {answer : StoreAnswer} {status : Nat}
    (made : (answer.response status).status = 201) : status = 201 := by
  have result : ∀ {α : Type} {json : α → Json.Value} {result : Except StoreError α},
      (Response.ofAnswer status json result).status = 201 → status = 201 := by
    intro α json result made
    cases result with
    | ok value => exact made
    | error cause => exact absurd made (ErrorAnswer.status_ofStore_ne cause)
  cases answer <;> exact result made

/-- Nothing is made by a request for a head. -/
theorem Route.status_of_head {route : Route} (allowed : route.allows "HEAD" = true) :
    route.status = 200 := by
  unfold allows at allowed
  unfold status
  cases made : route.makes with
  | false => rfl
  | true =>
    rw [made] at allowed
    cases allowed

section Requests

variable {environment : Environment} {outer limit : Option Duration} {machine : Machine}

/-- A task that ends as if something had been made is a call of a store with that status. -/
theorem Task.call_of_made [Collation] {request : Request} {route : Route} {status : Nat}
    {response : Response} (finished : (machine.perform environment outer
      ((of request route).action limit status)).2 = .finished response)
    (made : response.status = 201) :
    status = 201 ∧ ∃ call answer, of request route = .call call ∧
      (machine.perform environment outer (call.action limit)).2 = .finished answer ∧
      answer.response status = response ∧
      (machine.perform environment outer ((of request route).action limit status)).1 =
        (machine.perform environment outer (call.action limit)).1 := by
  cases asked : of request route with
  | answer refusal =>
    rw [asked] at finished
    obtain rfl : refusal = response := Ending.finished.inj finished
    have refused := (refusal_of asked).1
    rw [Response.Refusal, made] at refused
    exact absurd refused (by decide)
  | health =>
    rw [asked] at finished
    have ended := (congrArg Prod.snd (Machine.perform_map _ outer Health.check machine)).symm.trans
      finished
    obtain ⟨answer, _, rfl⟩ := Ending.map_eq_finished_iff.mp ended
    cases made
  | call call =>
    rw [asked] at finished
    have mapped : machine.perform environment outer
        (StoreAnswer.response status <$> call.action limit) = _ := Machine.perform_map _ _ _ _
    have ended := (congrArg Prod.snd mapped).symm.trans finished
    obtain ⟨answer, answered, rfl⟩ := Ending.map_eq_finished_iff.mp ended
    exact ⟨StoreAnswer.status_response made, call, answer, rfl, answered, rfl, congrArg Prod.fst mapped⟩

/-- A request that is answered as if something had been made has made an entity by a call. -/
theorem App.created_of_status [Collation] {app : App} {request : Request} {before : Machine}
    (services : app.services = .inDatabase limit)
    (made : (app.respond environment request before).2.status = 201) :
    ∃ (call : StoreCall) (entity : Entity) (route : Route),
      Task.of request route = .call call ∧ call.Creates ∧
      ((requestId environment request before).1.perform environment (some app.limit)
        (call.action limit)).2 = .finished entity.answer ∧
      (app.respond environment request before).1 =
        ((requestId environment request before).1.perform environment (some app.limit)
          (call.action limit)).1 ∧
      (app.respond environment request before).2.body = entity.json.render := by
  by_cases options : request.method = "OPTIONS"
  · rw [respond, if_pos options] at made
    have status : (app.cors.preflight request).status = 200 := rfl
    rw [status] at made
    cases made
  have responds : (app.respond environment request before).1 =
      (app.attend environment request before).1 ∧ _ := App.respond_eq options
  obtain ⟨after, status, body⟩ := responds
  rw [status] at made
  rw [after, body]
  have finished : ∃ response, (app.attend environment request before).2 = .finished response ∧
      response.status = 201 := by
    cases ended : (app.attend environment request before).2 with
    | finished response => exact ⟨response, rfl, by rw [ended] at made; exact made⟩
    | abandoned => rw [ended] at made; cases made
    | crashed => rw [ended] at made; cases made
  obtain ⟨response, finished, made⟩ := finished
  rw [finished]
  unfold attend at finished ⊢
  rw [services] at finished ⊢
  obtain ⟨refusal, unfound, same⟩ | ⟨route, found, allowed, same⟩ := Handler.dispatch_cases request
  · rw [same] at finished
    obtain rfl : refusal = response := Ending.finished.inj finished
    rw [made] at unfound
    exact absurd unfound (by decide)
  · rw [same] at finished ⊢
    by_cases head : request.method = "HEAD"
    · rw [if_pos head, Machine.perform_map] at finished
      obtain ⟨whole, ended, rfl⟩ := Ending.map_eq_finished_iff.mp finished
      obtain ⟨status, _⟩ := Task.call_of_made ended made
      rw [head] at allowed
      rw [Route.status_of_head allowed] at status
      cases status
    · rw [if_neg head] at finished ⊢
      obtain ⟨status, call, answer, asked, answered, rfl, machines⟩ := Task.call_of_made finished made
      have creates : call.Creates := by
        obtain ⟨input, _, rfl⟩ | ⟨input, _, rfl⟩ | ⟨reads, _⟩ := Task.call_cases asked
        · trivial
        · trivial
        · rw [Route.status, reads] at status
          cases status
      obtain ⟨entity, rfl⟩ | ⟨cause, fails⟩ := Machine.answer_of_creates creates answered
      · refine ⟨call, entity, route, asked, creates, answered, machines, ?_⟩
        cases entity <;> rfl
      · rw [fails] at made
        exact absurd made (ErrorAnswer.status_ofStore_ne cause)

/-- **What is made is found again.** In every state that operations lead to, an account, an item or an
order that a call or a request has made is found by every later look, field for field, whatever else is
done in between; and an order has the lines that were asked for. -/
theorem Machine.created_stays [Collation] {start before : Machine} (sound : start.tables.Sound)
    (reached : Relation.ReflTransGen Operated start before) (clocked : environment.Clocked) :
    (∀ outer limit (call : StoreCall) (entity : Entity), call.Creates →
        (before.perform environment outer (call.action limit)).2 = .finished entity.answer →
          entity.Stays (before.perform environment outer (call.action limit)).1 ∧
            ∀ order, entity = .order order →
              ∃ input, call = .createOrder (some input) ∧ order.Lists input) ∧
      ∀ settings limit app request, App.build? settings limit = some app →
        (app.respond environment request before).2.status = 201 →
          ∃ entity : Entity, (app.respond environment request before).2.body = entity.json.render ∧
            entity.Stays (app.respond environment request before).1 ∧
            ∀ order, entity = .order order → ∃ command input,
              Extract.body OrderCommand.decode request = .ok command ∧ command.toNew = .ok input ∧
                order.Lists input := by
  have now : before.tables.Sound := sound.grown (grown_of_operated reached)
  constructor
  · intro outer limit call entity creates created
    obtain ⟨stored, lists⟩ := storedIn_of_created now clocked creates created
    exact ⟨stored.stays (now.grown (Operated.call environment outer limit call).grown), lists⟩
  · intro settings limit app request built made
    have after : (app.respond environment request before).1.tables.Sound :=
      now.grown (Operated.request environment built request).grown
    obtain ⟨call, entity, route, asked, creates, created, machines, body⟩ :=
      App.created_of_status (App.services_of_build? built) made
    have between : (App.requestId environment request before).1.tables.Sound := by
      rw [App.tables_requestId]
      exact now
    obtain ⟨stored, lists⟩ := storedIn_of_created between clocked creates created
    rw [← machines] at stored
    refine ⟨entity, body, stored.stays after, ?_⟩
    intro order same
    obtain ⟨input, rfl, listed⟩ := lists order same
    obtain rfl : route = .orders := by
      obtain ⟨_, _, other⟩ | ⟨_, same, _⟩ | ⟨_, reads⟩ := Task.call_cases asked
      · cases other
      · exact same
      · exact absurd (Or.inl rfl) (reads .orders)
    obtain ⟨command, read, asked⟩ := Task.withPart_eq_call.mp asked
    obtain ⟨found, accepted, asked⟩ := Task.accepted_eq_call.mp asked
    cases asked
    exact ⟨command, input, read, accepted, listed⟩

/-- An environment whose clock stands still between two microseconds. -/
def Environment.still : Environment := .smooth (fun count => .numbered (10 + count)) fun _ => 1500

theorem Environment.clocked_still : still.Clocked := fun _ => rfl

/-- An account and an item are made on empty tables, and then an order with an empty line in the
middle. -/
theorem Machine.created_stays_sample :
    ∃ (before : Machine) (order : Order), Relation.ReflTransGen Operated {} before ∧
      (before.perform .still none ((StoreCall.createOrder
        (some ⟨.numbered 10,
          [some ⟨.numbered 11, 3⟩, none, some ⟨.numbered 11, 1⟩]⟩)).action none)).2 =
          .finished (Entity.order order).answer ∧
      order.items.length = 2 ∧
      (Entity.order order).Stays (before.perform .still none ((StoreCall.createOrder
        (some ⟨.numbered 10,
          [some ⟨.numbered 11, 3⟩, none, some ⟨.numbered 11, 1⟩]⟩)).action none)).1 := by
  have reached : Relation.ReflTransGen Operated {} _ :=
    .tail (.tail .refl
      (.call .still none none (.createAccount (some ⟨"ada@example.org", none, none, none, .female⟩))))
      (.call .still none none (.createItem (some ⟨"Tea", none, ⟨0⟩⟩)))
  obtain ⟨calls, _⟩ := created_stays Tables.sound_empty reached Environment.clocked_still
  obtain ⟨stays, _⟩ := calls none none (.createOrder
    (some ⟨.numbered 10, [some ⟨.numbered 11, 3⟩, none, some ⟨.numbered 11, 1⟩]⟩))
    (.order _) trivial rfl
  exact ⟨_, _, reached, rfl, rfl, stays⟩

end Requests

end Storefront
