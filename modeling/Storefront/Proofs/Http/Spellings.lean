/-
**Identifiers in requests.**

A text is read as an identifier if what trimming leaves of it spells one (`Uuid.Spelling`); otherwise the
report shows the field and the text as it stands.  What is found by an identifier depends on the
identifier, not on its spelling: two requests that differ only there (`Request.Respells`) have the same
response and the same consequences.

Main statements:

* `Rejection.readId_eq_ok_iff_spelling`, `Rejection.readId_unspelled`: what becomes of a text;
* `Handler.dispatch_respelled`, `App.respond_respelled`: what becomes of a request;
* `identifiers_read_as_spelled`: all of it together.
-/

import Storefront.Http.App
import Storefront.Proofs.Order.Wishes
import Storefront.Proofs.Uuid.Spelling

namespace Storefront

open Storefront.Text

/-! ### Texts -/

namespace Rejection

variable {field raw : String} {id : Uuid}

/-- What trimming leaves of a text decides whether it is read as an identifier. -/
theorem readId_eq_ok_iff_spelling : readId field raw = .ok id ↔ id.Spelling (trim raw.toList) := by
  rw [readId_eq_ok_iff, Uuid.Spells, Uuid.read_eq_ok_iff]

/-- A text stands somewhere in the wording of a rejection. -/
def Shows (rejection : Rejection) (part : String) : Prop := part.toList <:+: rejection.text.toList

/-- The field and the text, white space included, stand in the report on a text that is no identifier. -/
theorem shows_identifier (field raw : String) (cause : Uuid.ReadError) :
    (identifier field raw cause).Shows field ∧ (identifier field raw cause).Shows raw := by
  have wording : (identifier field raw cause).text =
      "Validation failed: " ++ ("Invalid " ++ field ++ " '" ++ raw ++ "': " ++ cause.message) := rfl
  unfold Shows
  rw [wording]
  repeat rw [String.toList_append]
  constructor
  · exact ⟨"Validation failed: ".toList ++ "Invalid ".toList,
      " '".toList ++ raw.toList ++ "': ".toList ++ cause.message.toList, by simp only [List.append_assoc]⟩
  · exact ⟨"Validation failed: ".toList ++ "Invalid ".toList ++ field.toList ++ " '".toList,
      "': ".toList ++ cause.message.toList, by simp only [List.append_assoc]⟩

/-- A text that spells no identifier is refused, with the field and the text. -/
theorem readId_unspelled (unspelled : ∀ id : Uuid, ¬ id.Spelling (trim raw.toList)) :
    ∃ cause, readId field raw = .error (.identifier field raw cause) ∧
      (identifier field raw cause).Shows field ∧ (identifier field raw cause).Shows raw := by
  cases read : Uuid.read (trim raw.toList) with
  | ok id => exact absurd (Uuid.read_eq_ok_iff.mp read) (unspelled id)
  | error cause =>
    exact ⟨cause, readId_eq_error_iff.mpr ⟨cause, read, rfl⟩, shows_identifier field raw cause⟩

/-- The text of an identifier is read as it. -/
theorem readId_text (field : String) (id : Uuid) : readId field id.text = .ok id := by
  have spelling : id.Spelling id.chars := Uuid.read_eq_ok_iff.mp (Uuid.read_chars id)
  rw [readId_eq_ok_iff_spelling, Uuid.text, String.toList_ofList, spelling.trim_eq]
  exact spelling

end Rejection

/-! ### Resources -/

/-- The resource of the same kind under another identifier. -/
def Route.under (raw : List Char) : Route → Route
  | .account _ => .account raw
  | .accountOrders _ => .accountOrders raw
  | .item _ => .item raw
  | .order _ => .order raw
  | route => route

theorem Route.allowed_under (raw : List Char) (route : Route) :
    (route.under raw).allowed = route.allowed := by
  cases route <;> rfl

theorem Route.allows_under (raw : List Char) (route : Route) :
    (route.under raw).allows = route.allows := by
  cases route <;> rfl

/-- A part of a path, decoded and trimmed, spells an identifier. -/
def Extract.Spells (raw : List Char) (id : Uuid) : Prop :=
  ∃ text, Extract.id raw = .ok text ∧ id.Spelling (trim text.toList)

/-- Two requests that differ at most in how the identifier in their paths is spelled. -/
structure Request.Respells (id : Uuid) (first second : Request) : Prop where
  method : second.method = first.method
  headers : second.headers = first.headers
  body : second.body = first.body
  query : second.query = first.query
  places : ∃ route raw raw', route.id? = some raw ∧ Extract.Spells raw id ∧ Extract.Spells raw' id ∧
    Route.ofPath? first.path = some route ∧ Route.ofPath? second.path = some (route.under raw')

namespace Handler

variable {services : Services} {id : Uuid} {first second : Request} {raw raw' : List Char}

/-- A service that reads its identifier first does the same for each spelling. -/
theorem withPart_respelled {next : String → Action Response} (spells : Extract.Spells raw id)
    (spells' : Extract.Spells raw' id)
    (alike : ∀ text text' : String, id.Spelling (trim text.toList) → id.Spelling (trim text'.toList) →
      next text = next text') :
    withPart (Extract.id raw) next = withPart (Extract.id raw') next := by
  obtain ⟨text, decoded, spelling⟩ := spells
  obtain ⟨text', decoded', spelling'⟩ := spells'
  rw [decoded, decoded']
  exact alike text text' spelling spelling'

/-- At a resource with an identifier the same is done for each spelling. -/
theorem handle_respelled {route : Route} (named : route.id? = some raw) (query : second.query = first.query)
    (spells : Extract.Spells raw id) (spells' : Extract.Spells raw' id) :
    handle services second (route.under raw') = handle services first route := by
  have read : ∀ {field text : String}, id.Spelling (trim text.toList) →
      Rejection.readId field text = .ok id := Rejection.readId_eq_ok_iff_spelling.mpr
  have pages : page second = page first := by
    unfold page Extract.pageQuery
    rw [query]
  cases route with
  | health => cases named
  | accounts => cases named
  | items => cases named
  | orders => cases named
  | account found =>
    obtain rfl := Option.some.inj named
    refine withPart_respelled spells' spells fun text text' spelling spelling' => ?_
    unfold AccountService.byId
    rw [read spelling, read spelling']
  | accountOrders found =>
    obtain rfl := Option.some.inj named
    show accountOrders services raw' second = accountOrders services found first
    unfold accountOrders
    rw [pages]
    refine withPart_respelled spells' spells fun text text' spelling spelling' => ?_
    unfold OrderService.search
    rw [read spelling, read spelling']
  | item found =>
    obtain rfl := Option.some.inj named
    refine withPart_respelled spells' spells fun text text' spelling spelling' => ?_
    unfold ItemService.byId
    rw [read spelling, read spelling']
  | order found =>
    obtain rfl := Option.some.inj named
    refine withPart_respelled spells' spells fun text text' spelling spelling' => ?_
    unfold OrderService.byId
    rw [read spelling, read spelling']

/-- A request is passed on in the same way however its identifier is spelled. -/
theorem dispatch_respelled (respells : first.Respells id second) :
    dispatch services second = dispatch services first := by
  obtain ⟨route, raw, raw', named, spells, spells', path, path'⟩ := respells.places
  have handled : handle services second (route.under raw') = handle services first route :=
    handle_respelled named respells.query spells spells'
  unfold dispatch
  rw [path, path', respells.method]
  dsimp only
  rw [handled, Route.allows_under, Route.allowed_under]

end Handler

/-! ### Responses -/

/-- **However the identifier in its path is spelled, a request has the same response** and the same
consequences. -/
theorem App.respond_respelled [Collation] {id : Uuid} {first second : Request} (app : App)
    (environment : Environment) (machine : Machine) (respells : first.Respells id second) :
    app.respond environment second machine = app.respond environment first machine := by
  have header : ∀ name, second.header? name = first.header? name := fun name => by
    unfold Request.header?
    rw [respells.headers]
  have granted : app.cors.extend second = app.cors.extend first := by
    funext response
    unfold Cors.extend Cors.grant Cors.granted?
    rw [header]
  unfold respond
  rw [respells.method]
  by_cases options : first.method = "OPTIONS"
  · obtain ⟨route, raw, raw', -, -, -, path, path'⟩ := respells.places
    rw [if_pos options, if_pos options]
    unfold Cors.preflight
    rw [path, path', granted]
    dsimp only
    rw [Route.allowed_under]
  · have identified : requestId environment second machine = requestId environment first machine := by
      unfold requestId
      rw [header]
    rw [if_neg options, if_neg options, identified, Handler.dispatch_respelled respells, granted]

/-- **Which texts are read as identifiers, and what for.** A text is read as an identifier exactly if
what trimming leaves of it is one of its spellings; any other text is refused, with the field and the
text as it stands in the report.  So the text of an identifier is read as it, and a request for
something by its identifier has the same response however the identifier is spelled. -/
theorem identifiers_read_as_spelled [Collation] :
    (∀ (raw field : String) (id : Uuid),
      Rejection.readId field raw = .ok id ↔ id.Spelling (trim raw.toList)) ∧
    (∀ raw field : String, (∀ id : Uuid, ¬ id.Spelling (trim raw.toList)) →
      ∃ cause, Rejection.readId field raw = .error (.identifier field raw cause) ∧
        (Rejection.identifier field raw cause).Shows field ∧
        (Rejection.identifier field raw cause).Shows raw) ∧
    (∀ (id : Uuid) (field : String), Rejection.readId field id.text = .ok id) ∧
    (∀ (app : App) (environment : Environment) (machine : Machine) (id : Uuid) (first second : Request),
      first.Respells id second →
        app.respond environment second machine = app.respond environment first machine) := by
  refine ⟨fun raw field id => Rejection.readId_eq_ok_iff_spelling, fun raw field unspelled => ?_,
    fun id field => Rejection.readId_text field id, fun app environment machine id first second => ?_⟩
  · exact Rejection.readId_unspelled unspelled
  · exact App.respond_respelled app environment machine

/-- A look for an account under the text of an identifier. -/
def accountLookup : Request where
  target := "/api/v1/account/00000000-0000-4000-8000-00000000000a"

/-- The same look, with a space that does not break, braces and a capital letter. -/
def accountLookupBraced : Request where
  target := "/api/v1/account/%C2%A0%7B00000000-0000-4000-8000-00000000000A%7D"

/-- Both looks are answered alike, and a text in which a digit is missing is refused. -/
theorem identifiers_read_as_spelled_sample :
    ∃ (app : App) (id : Uuid) (raw : String), App.build? {} none = some app ∧
      accountLookup.Respells id accountLookupBraced ∧
      app.respond .sample accountLookupBraced {} = app.respond .sample accountLookup {} ∧
      (∀ id : Uuid, ¬ id.Spelling (trim raw.toList)) ∧
      ∃ cause, Rejection.readId "order id" raw = .error (.identifier "order id" raw cause) := by
  obtain ⟨-, refused, -, alike⟩ := identifiers_read_as_spelled
  have respells : accountLookup.Respells (.numbered 10) accountLookupBraced := by
    refine ⟨rfl, rfl, rfl, by decide +kernel, .account (Uuid.numbered 10).chars,
      (Uuid.numbered 10).chars, "%C2%A0%7B00000000-0000-4000-8000-00000000000A%7D".toList, rfl,
      ⟨(Uuid.numbered 10).text, by decide +kernel, Uuid.read_eq_ok_iff.mp (by decide +kernel)⟩,
      ⟨"\u00a0\x7b00000000-0000-4000-8000-00000000000A\x7d", by decide +kernel,
        Uuid.read_eq_ok_iff.mp (by decide +kernel)⟩, by decide +kernel, by decide +kernel⟩
  have unread : Uuid.read (trim " urn:uuid:00000000-0000-4000-8000-0000000000a".toList) =
      .error (.groupLength 4 12 20) := by decide +kernel
  have unspelled : ∀ id : Uuid,
      ¬ id.Spelling (trim " urn:uuid:00000000-0000-4000-8000-0000000000a".toList) := by
    intro id spelling
    cases unread.symm.trans (Uuid.read_eq_ok_iff.mpr spelling)
  obtain ⟨cause, found, -, -⟩ := refused _ "order id" unspelled
  exact ⟨⟨⟨["http://localhost:5173"]⟩, .inDatabase none, .ofSeconds 30⟩, .numbered 10, _, rfl,
    respells, alike _ _ _ _ _ _ respells, unspelled, cause, found⟩

end Storefront
