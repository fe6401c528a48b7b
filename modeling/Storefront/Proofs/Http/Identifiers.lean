/-
**Identifiers of requests.**

Every response to another method than `OPTIONS` carries the identifier of its request, in one header and
however the work on the request has ended: the header is set around everything that writes a response,
and nothing within writes a header of that name (`Handler.returns_dispatch`).  No identifier is taken
back (`Machine.ids_perform`), so requests without one get different ones.

Main statement: `App.respond_identified`.
-/

import Storefront.Proofs.Http.Tasks
import Storefront.Proofs.Program.Failures

namespace Storefront

variable {α β : Type} {environment : Environment}

/-- An identifier is known by its text. -/
theorem Uuid.text_injective {first second : Uuid} (same : first.text = second.text) :
    first = second := by
  have chars : first.chars = second.chars := String.ofList_injective same
  have read := read_chars first
  rw [chars, read_chars second] at read
  exact (Except.ok.inj read).symm

/-! ### What is given out -/

theorem Session.ids_run [Collation] (limit : Option Duration) (program : Program α)
    (session : Session) :
    session.machine.ids ≤ (session.run environment limit program).1.machine.ids := by
  induction program generalizing session with
  | done value => exact Nat.le_refl _
  | ask call next ih =>
    have stepped := ids_step environment limit session call
    rw [run_ask]
    cases (session.step environment limit call).2 with
    | answer answer => exact Nat.le_trans stepped (ih answer _)
    | late => exact stepped
    | crashed => exact stepped

theorem Session.ids_close (session : Session) : session.close.ids = session.machine.ids := by
  unfold close
  dsimp only
  split
  · rfl
  · split <;> rfl

/-- No identifier is taken back while an action is performed. -/
theorem Machine.ids_perform [Collation] (outer : Option Duration) (action : Action α)
    (machine : Machine) :
    machine.ids ≤ (machine.perform environment outer action).1.ids := by
  cases action with
  | answered value => exact Nat.le_refl _
  | waiting own program =>
    rw [perform_eq]
    dsimp only
    rw [Session.ids_close]
    exact Session.ids_run (bound own outer) program ⟨machine, none, 0⟩

/-- What can happen on a machine: a request is taken up and gets its identifier, an action is performed,
or the database becomes reachable or unreachable. -/
inductive Machine.Proceeds [Collation] (environment : Environment) (before : Machine) : Machine → Prop
  | request (request : Request) : Proceeds environment before (App.requestId environment request before).1
  | action {α : Type} (outer : Option Duration) (action : Action α) :
      Proceeds environment before (before.perform environment outer action).1
  | pool (state : PoolState) : Proceeds environment before { before with pool := state }

theorem Machine.ids_of_proceeds [Collation] {before after : Machine}
    (proceeds : Relation.ReflTransGen (Proceeds environment) before after) : before.ids ≤ after.ids := by
  induction proceeds with
  | refl => exact Nat.le_refl _
  | tail _ step ih =>
    refine Nat.le_trans ih ?_
    cases step with
    | request request => exact App.ids_requestId.1
    | action outer action => exact ids_perform outer action _
    | pool state => exact Nat.le_refl _

/-! ### What is written within -/

/-- Whatever the action comes to is like this. -/
def Action.Returns [Collation] (post : α → Prop) (action : Action α) : Prop :=
  ∀ (environment : Environment) (outer : Option Duration) (machine : Machine) (value : α),
    (machine.perform environment outer action).2 = .finished value → post value

theorem Action.returns_answered [Collation] {post : α → Prop} {value : α} (holds : post value) :
    (Action.answered value).Returns post := by
  intro _ _ _ result finished
  cases finished
  exact holds

theorem Action.Returns.map [Collation] {post : α → Prop} {changed : β → Prop} {f : α → β}
    {action : Action α} (returns : action.Returns post)
    (implies : ∀ value, post value → changed (f value)) :
    (f <$> action).Returns changed := by
  intro environment outer machine value finished
  rw [Machine.perform_map] at finished
  obtain ⟨result, ended, rfl⟩ := Ending.map_eq_finished_iff.mp finished
  exact implies result (returns environment outer machine result ended)

theorem Action.returns_anything [Collation] (action : Action α) : action.Returns fun _ => True :=
  fun _ _ _ _ _ => trivial

/-- The response has no headers but those that say what its text is and what its resource allows. -/
def Response.Plain (response : Response) : Prop :=
  ∀ header ∈ response.headers, header.1 = "content-type" ∨ header.1 = "allow"

theorem Response.Written.plain {response : Response} (written : response.Written) : response.Plain := by
  intro header member
  cases written with
  | text status text => exact .inl (congrArg Prod.fst (List.mem_singleton.mp member))
  | json status value => exact .inl (congrArg Prod.fst (List.mem_singleton.mp member))

/-- Such a response has no header with another name. -/
theorem Response.Plain.filter_eq_nil {response : Response} (plain : response.Plain) {name : String}
    (other : name ≠ "content-type") (other' : name ≠ "allow") :
    (response.headers.filter fun header => header.1 = name) = [] := by
  refine List.filter_eq_nil_iff.mpr fun header member => ?_
  rw [decide_eq_true_eq]
  rintro rfl
  exact (plain header member).elim other other'

theorem StoreAnswer.written_response (status : Nat) (answer : StoreAnswer) :
    (answer.response status).Written := by
  have written : ∀ {α : Type} (json : α → Json.Value) (result : Except StoreError α),
      (Response.ofAnswer status json result).Written := by
    intro α json result
    cases result with
    | ok value => exact .json _ _
    | error cause => exact .json _ _
  cases answer with
  | account result => exact written _ result
  | item result => exact written _ result
  | items result => exact written _ result
  | order result => exact written _ result
  | orders result => exact written _ result

namespace Handler

variable [Collation] {limit : Option Duration} {request : Request}

theorem returns_task (route : Route) :
    ((Task.of request route).action limit route.status).Returns Response.Plain := by
  cases asked : Task.of request route with
  | answer response => exact Action.returns_answered (Task.refusal_of asked).2.plain
  | health => exact Health.check.returns_anything.map fun _ _ => (Response.Written.json _ _).plain
  | call call =>
    exact (call.action limit).returns_anything.map fun answer _ => (answer.written_response _).plain

/-- Nothing that the server does for a request writes other headers. -/
theorem returns_dispatch : (dispatch (.inDatabase limit) request).Returns Response.Plain := by
  unfold dispatch
  cases Route.ofPath? request.path with
  | none => exact Action.returns_answered nofun
  | some route =>
    have handled : (handle (.inDatabase limit) request route).Returns Response.Plain := by
      rw [handle_eq]
      exact returns_task route
    dsimp only
    split
    · refine Action.returns_answered fun header member => ?_
      exact .inr (congrArg Prod.fst (List.mem_singleton.mp member))
    · split
      · exact handled.map fun _ plain => plain
      · exact handled

end Handler

/-! ### Responses -/

/-- The first value of a header is that of the first header with the name. -/
theorem Response.header?_eq (response : Response) (name : String) :
    response.header? name =
      ((response.headers.filter fun header => header.1 = name).head?).map Prod.snd := by
  unfold header?
  induction response.headers with
  | nil => rfl
  | cons first rest ih =>
    obtain ⟨key, value⟩ := first
    by_cases same : name = key
    · simp [same]
    · have other : ¬ key = name := fun equal => same equal.symm
      simp [List.lookup_cons, beq_false_of_ne same, other, ih]

namespace App

variable {app : App} {request : Request} {machine : Machine}

/-- However the work on a request ends, no other headers are written within. -/
theorem plain_attend [Collation] {limit : Option Duration}
    (services : app.services = .inDatabase limit) :
    (conclude (app.attend environment request machine).2).Plain := by
  cases ended : (app.attend environment request machine).2 with
  | finished response =>
    unfold attend at ended
    rw [services] at ended
    exact Handler.returns_dispatch _ _ _ response ended
  | abandoned => exact nofun
  | crashed => exact (Response.Written.text _ _).plain

/-- Around what is written within come the identifier and then what the request is granted. -/
theorem response_respond [Collation] (method : request.method ≠ "OPTIONS") :
    (app.respond environment request machine).2 =
      app.cors.extend request ((conclude (app.attend environment request machine).2).withHeaders
        [(requestIdHeader, (requestId environment request machine).2)]) := by
  unfold respond
  rw [if_neg method]
  rfl

/-- What a request is granted is no identifier. -/
theorem unmarked_grant {cors : Cors} {header : String × String}
    (member : header ∈ Cors.always ++ cors.grant request) : header.1 ≠ requestIdHeader := by
  unfold Cors.always Cors.grant at member
  split at member
  · simp only [List.cons_append, List.nil_append, List.mem_cons, List.not_mem_nil, or_false] at member
    rcases member with rfl | rfl | rfl <;> simp [requestIdHeader]
  · simp only [List.append_nil, List.mem_cons, List.not_mem_nil, or_false] at member
    rcases member with rfl | rfl <;> simp [requestIdHeader]

/-- The identifier stands in exactly one header of a response. -/
theorem filter_respond [Collation] {limit : Option Duration}
    (services : app.services = .inDatabase limit) (method : request.method ≠ "OPTIONS") :
    (app.respond environment request machine).2.headers.filter
        (fun header => header.1 = requestIdHeader) =
      [(requestIdHeader, (requestId environment request machine).2)] := by
  have inside : (conclude (app.attend environment request machine).2).headers.filter
      (fun header => header.1 = requestIdHeader) = [] :=
    (plain_attend services).filter_eq_nil (by decide) (by decide)
  have outside : (Cors.always ++ app.cors.grant request).filter
      (fun header => header.1 = requestIdHeader) = [] := by
    refine List.filter_eq_nil_iff.mpr fun header member => ?_
    simpa using unmarked_grant member
  rw [response_respond method, Cors.extend, Response.withHeaders, List.filter_append, outside,
    Response.withHeaders, List.filter_append, inside]
  simp

/-- The identifier is found in a response by the name of its header. -/
theorem header?_respond [Collation] {limit : Option Duration}
    (services : app.services = .inDatabase limit) (method : request.method ≠ "OPTIONS") :
    (app.respond environment request machine).2.header? requestIdHeader =
      some (requestId environment request machine).2 := by
  rw [Response.header?_eq, filter_respond services method]
  rfl

/-- A request that brings an identifier along keeps it. -/
theorem requestId_of_brought {own : String} (brought : request.header? requestIdHeader = some own) :
    requestId environment request machine = (machine, own) := by
  unfold requestId
  rw [brought]

/-- A request without an identifier gets a fresh one. -/
theorem requestId_of_missing (missing : request.header? requestIdHeader = none) :
    requestId environment request machine =
      ({ machine with ids := machine.ids + 1 }, (environment.id machine.ids).text) := by
  unfold requestId
  rw [missing]

/-- Two requests without an identifier, of which the one comes after the other, get different ones. -/
theorem requestId_ne [Collation] {other : Request} {later : Machine}
    (missing : request.header? requestIdHeader = none) (missing' : other.header? requestIdHeader = none)
    (proceeds : Relation.ReflTransGen (Machine.Proceeds environment)
      (requestId environment request machine).1 later)
    (fresh : environment.Fresh machine.ids (later.ids + 1)) :
    (requestId environment other later).2 ≠ (requestId environment request machine).2 := by
  rw [requestId_of_missing missing] at proceeds ⊢
  rw [requestId_of_missing missing']
  intro same
  have order : machine.ids + 1 ≤ later.ids := Machine.ids_of_proceeds proceeds
  have counts : machine.ids = later.ids :=
    fresh _ _ (Nat.le_refl _) (by omega) (by omega) (by omega) (Uuid.text_injective same).symm
  omega

/-- The work on a request is something that happens after the request has got its identifier. -/
theorem proceeds_respond [Collation] (method : request.method ≠ "OPTIONS") :
    Relation.ReflTransGen (Machine.Proceeds environment) (requestId environment request machine).1
      (app.respond environment request machine).1 := by
  rw [(respond_eq method).1]
  exact .single (.action _ _)

/-- A server can be built if no wildcard stands among its origins. -/
theorem exists_of_build? {settings : ServerSettings} (limit : Option Duration)
    (named : "*" ∉ settings.origins) : ∃ app, build? settings limit = some app := by
  have listed : ¬ settings.origins.contains "*" := by simpa using named
  unfold build? Cors.ofOrigins?
  rw [if_neg listed]
  exact ⟨_, rfl⟩

/-- **Every response carries the identifier of its request.** A server whose origins have no wildcard
among them can be built.  Whatever it is asked by another method than `OPTIONS`, and however the work on
that ends, the response has exactly one header with an identifier: the first one that the request has
brought along, or else a fresh one; and whatever happens afterwards, no later request without an
identifier gets the same, as long as the identifiers that are given out are different. -/
theorem respond_identified [Collation] {settings : ServerSettings} {limit : Option Duration}
    (named : "*" ∉ settings.origins) :
    ∃ app, build? settings limit = some app ∧
      ∀ (environment : Environment) (request : Request) (machine : Machine),
        request.method ≠ "OPTIONS" →
          ∃ id,
            (app.respond environment request machine).2.header? requestIdHeader = some id ∧
            (app.respond environment request machine).2.headers.filter
              (fun header => header.1 = requestIdHeader) = [(requestIdHeader, id)] ∧
            (∀ own, request.header? requestIdHeader = some own → id = own) ∧
            (request.header? requestIdHeader = none →
              id = (environment.id machine.ids).text ∧
                ∀ later other,
                  Relation.ReflTransGen (Machine.Proceeds environment)
                    (requestId environment request machine).1 later →
                  environment.Fresh machine.ids (later.ids + 1) → other.method ≠ "OPTIONS" →
                  other.header? requestIdHeader = none →
                    (app.respond environment other later).2.header? requestIdHeader ≠ some id) := by
  obtain ⟨app, built⟩ := exists_of_build? limit named
  have services := services_of_build? built
  refine ⟨app, built, fun environment request machine method => ?_⟩
  refine ⟨(requestId environment request machine).2, header?_respond services method,
    filter_respond services method, ?_, fun missing => ⟨?_, ?_⟩⟩
  · intro own brought
    rw [requestId_of_brought brought]
  · rw [requestId_of_missing missing]
  · intro later other proceeds fresh method' missing'
    rw [header?_respond services method']
    exact fun same => requestId_ne missing missing' proceeds fresh (Option.some.inj same)

/-- A look at the health of the database. -/
def healthWish : Request where
  target := "/health"

/-- An environment in which the first statement is never answered, and the next one breaks down. -/
def failing : Environment :=
  { Environment.sample with fate := fun sent _ => if sent.isEmpty then .silent else .crashed }

/-- A request that takes too long, one with an identifier of its own that breaks down, and one for a
path without a resource. -/
theorem respond_identified_sample :
    ∃ (app : App) (first second third : Machine × Response), build? {} none = some app ∧
      first = app.respond failing healthWish {} ∧
      second = app.respond failing { healthWish with headers := [("x-request-id", "trace-me")] } first.1 ∧
      third = app.respond failing { healthWish with target := "/" } second.1 ∧
      first.2.status = 408 ∧ first.2.header? requestIdHeader = some (Uuid.numbered 10).text ∧
      second.2.status = 500 ∧ second.2.header? requestIdHeader = some "trace-me" ∧
      third.2.status = 404 ∧ third.2.header? requestIdHeader ≠ some (Uuid.numbered 10).text := by
  have named : "*" ∉ ({} : ServerSettings).origins := by decide
  obtain ⟨app, built, carries⟩ : ∃ app, build? {} none = some app ∧ _ := respond_identified named
  have same : build? {} none =
      some ⟨⟨["http://localhost:5173"]⟩, .inDatabase none, .ofSeconds 30⟩ := rfl
  obtain rfl := Option.some.inj (built.symm.trans same)
  obtain ⟨id, found, _, _, given⟩ := carries failing healthWish {} (by decide)
  obtain ⟨rfl, different⟩ := given rfl
  obtain ⟨own, found', _, brought, _⟩ :=
    carries failing { healthWish with headers := [("x-request-id", "trace-me")] }
      (App.respond _ failing healthWish {}).1 (by decide)
  obtain rfl := brought "trace-me" rfl
  refine ⟨_, _, _, _, built, rfl, rfl, rfl, by decide +kernel, found, by decide +kernel, found',
    by decide +kernel, ?_⟩
  refine different _ _ ?_ ?_ (by decide) rfl
  · exact (proceeds_respond (by decide)).trans
      (Relation.ReflTransGen.head (.request _) (proceeds_respond (by decide)))
  · have distinct : ∀ one < 2, ∀ other < 2, failing.id one = failing.id other → one = other := by
      decide
    exact fun one other _ below _ below' => distinct one below other below'

end App

end Storefront
