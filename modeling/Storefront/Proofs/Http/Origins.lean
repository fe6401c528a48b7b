/-
**Origins that are granted.**

The origins that may use the server come from one text, in which they stand between commas.  A wildcard
among them keeps the server from being built.  Otherwise every response, however the work on its request
has ended, names the origin of the request if that is listed, letter by letter, and no origin if it is
not: the header is set around everything else, questions what is allowed included, and nothing within
writes a header of that name (`Handler.returns_dispatch`).

Main statements:

* `App.build?_eq_none_iff`: a server cannot be built exactly if a wildcard stands among its origins;
* `App.filter_origin_respond`: the header that names an origin is the grant, and there is no other;
* `origins_granted_as_listed`: both for the text of the variable.
-/

import Storefront.Proofs.Http.Identifiers

namespace Storefront

open Storefront.Text

/-! ### Origins in a text -/

/-- The origin stands between commas of the text, white space around it aside, and can stand in a header. -/
structure Cors.Lists (raw origin : String) : Prop where
  filled : origin ≠ ""
  piece : ∃ piece ∈ pieces ',' raw.toList, trim piece = origin.toList
  header : Cors.isHeaderText origin = true

theorem ServerSettings.mem_readOrigins_iff_trim {raw origin : String} :
    origin ∈ readOrigins raw ↔
      origin ≠ "" ∧ ∃ piece ∈ pieces ',' raw.toList, trim piece = origin.toList := by
  have same : ∀ piece, origin = String.ofList (trim piece) ↔ trim piece = origin.toList := by
    intro piece
    constructor
    · rintro rfl
      exact String.toList_ofList.symm
    · intro same
      rw [same, String.ofList_toList]
  simp only [mem_readOrigins_iff, same]

/-- The origins that are kept are the ones that the text lists. -/
theorem Cors.mem_origins_iff {raw origin : String} {cors : Cors}
    (made : ofOrigins? (ServerSettings.readOrigins raw) = some cors) :
    origin ∈ cors.origins ↔ Lists raw origin := by
  unfold ofOrigins? at made
  split at made
  · cases made
  · cases made
    rw [List.mem_filter, ServerSettings.mem_readOrigins_iff_trim]
    constructor
    · rintro ⟨⟨filled, piece⟩, header⟩
      exact ⟨filled, piece, header⟩
    · rintro ⟨filled, piece, header⟩
      exact ⟨⟨filled, piece⟩, header⟩

namespace App

variable {app : App} {environment : Environment} {request : Request} {machine : Machine}
  {settings : ServerSettings} {limit : Option Duration}

/-- A server cannot be built exactly if a wildcard stands among its origins. -/
theorem build?_eq_none_iff : build? settings limit = none ↔ "*" ∈ settings.origins := by
  unfold build? Cors.ofOrigins?
  rw [Option.map_eq_none_iff, ← List.contains_iff_mem]
  split
  · next wildcard => exact ⟨fun _ => wildcard, fun _ => rfl⟩
  · next named => exact ⟨nofun, fun wildcard => absurd wildcard named⟩

/-- The header that names the origin to which a response is granted. -/
def originHeader : String := "access-control-allow-origin"

/-- The headers around a response name an origin in the grant only. -/
theorem filter_origin_extend {response : Response} (cors : Cors)
    (plain : response.headers.filter (fun header => header.1 = originHeader) = []) :
    (cors.extend request response).headers.filter (fun header => header.1 = originHeader) =
      cors.grant request := by
  have always : Cors.always.filter (fun header => header.1 = originHeader) = [] := by decide
  have granted : (cors.grant request).filter (fun header => header.1 = originHeader) =
      cors.grant request := by
    refine List.filter_eq_self.mpr fun header member => ?_
    unfold Cors.grant at member
    split at member
    · obtain rfl := List.mem_singleton.mp member
      exact decide_eq_true rfl
    · cases member
  rw [Cors.extend, Response.withHeaders, List.filter_append, List.filter_append, plain, always, granted]
  rfl

/-- **The header that names an origin is the grant**, and there is no other, whatever is asked and however
the work on it ends. -/
theorem filter_origin_respond [Collation] (services : app.services = .inDatabase limit) :
    (app.respond environment request machine).2.headers.filter (fun header => header.1 = originHeader) =
      app.cors.grant request := by
  by_cases method : request.method = "OPTIONS"
  · have answered : (app.respond environment request machine).2 = app.cors.preflight request := by
      rw [respond, if_pos method]
    rw [answered, Cors.preflight]
    refine filter_origin_extend app.cors ?_
    cases Route.ofPath? request.path with
    | none => decide
    | some route => rfl
  · rw [response_respond method]
    refine filter_origin_extend app.cors ?_
    have inside : (conclude (app.attend environment request machine).2).headers.filter
        (fun header => header.1 = originHeader) = [] :=
      (plain_attend services).filter_eq_nil (by decide) (by decide)
    have other : requestIdHeader ≠ originHeader := by decide
    rw [Response.withHeaders, List.filter_append, inside, List.nil_append, List.filter_cons_of_neg]
    · rfl
    · simpa using other

/-- A response names an origin exactly if the request comes from it and it is granted. -/
theorem mem_headers_respond_iff [Collation] {origin : String}
    (services : app.services = .inDatabase limit) :
    (originHeader, origin) ∈ (app.respond environment request machine).2.headers ↔
      app.cors.granted? request = some origin := by
  have grant : (app.respond environment request machine).2.headers.filter
      (fun header => header.1 = originHeader) = app.cors.grant request := filter_origin_respond services
  have filtered : (originHeader, origin) ∈ (app.respond environment request machine).2.headers ↔
      (originHeader, origin) ∈ app.cors.grant request := by
    rw [← grant, List.mem_filter]
    exact ⟨fun member => ⟨member, decide_eq_true rfl⟩, And.left⟩
  rw [filtered, Cors.grant]
  cases app.cors.granted? request with
  | none => simp
  | some found => simp [originHeader, eq_comm]

end App

/-- **Origins are granted as they are listed.** Let the variable for the origins hold a text.  The server
cannot be built exactly if a piece of the text between commas is a wildcard, white space around it aside.
If it is built, a response to any request, however the work on it ends, names an origin exactly if the
request comes from it and the text lists it, and names one origin at most. -/
theorem origins_granted_as_listed [Collation] {vars : Variables} {raw : String}
    (configured : vars "CORS_ORIGINS" = some raw) (limit : Option Duration) :
    (App.build? (.ofVariables vars) limit = none ↔
      ∃ piece ∈ pieces ',' raw.toList, trim piece = ['*']) ∧
      ∀ app, App.build? (.ofVariables vars) limit = some app →
        ∀ (environment : Environment) (request : Request) (machine : Machine),
          (∀ origin,
            (App.originHeader, origin) ∈ (app.respond environment request machine).2.headers ↔
              request.header? "origin" = some origin ∧ Cors.Lists raw origin) ∧
          ((app.respond environment request machine).2.headers.filter
            (fun header => header.1 = App.originHeader)).length ≤ 1 := by
  have origins : (ServerSettings.ofVariables vars).origins = ServerSettings.readOrigins raw := by
    have text : vars.text "CORS_ORIGINS" "http://localhost:5173" = raw := by
      rw [Variables.text, configured, Option.getD_some]
    exact congrArg ServerSettings.readOrigins text
  refine ⟨?refused, fun app built environment request machine => ⟨fun origin => ?named, ?once⟩⟩
  case refused =>
    rw [App.build?_eq_none_iff, origins, ServerSettings.mem_readOrigins_iff_trim]
    exact ⟨And.right, fun piece => ⟨by decide, piece⟩⟩
  case named =>
    obtain ⟨cors, made, rfl⟩ := Option.map_eq_some_iff.mp built
    rw [App.mem_headers_respond_iff (App.services_of_build? built), Cors.granted_iff]
    rw [Cors.mem_origins_iff (origins ▸ made)]
  case once =>
    rw [App.filter_origin_respond (App.services_of_build? built), Cors.grant]
    cases app.cors.granted? request with
    | none => exact Nat.zero_le 1
    | some origin => exact Nat.le_refl 1

/-- Variables with two origins, an empty piece between them and another one behind. -/
def twoOrigins : Variables := Variables.ofList [("CORS_ORIGINS", " http://a.test , ,http://b.test,")]

/-- A look at the health of the database from an origin. -/
def healthWishFrom (origin : String) : Request where
  target := "/health"
  headers := [("origin", origin)]

/-- One of the two origins is granted, and a longer one is not. -/
theorem origins_granted_as_listed_sample :
    ∃ app, App.build? (.ofVariables twoOrigins) none = some app ∧
      ∀ (environment : Environment) (machine : Machine),
        (App.originHeader, "http://b.test") ∈
          (app.respond environment (healthWishFrom "http://b.test") machine).2.headers ∧
        ∀ origin, (App.originHeader, origin) ∉
          (app.respond environment (healthWishFrom "http://b.test.net") machine).2.headers := by
  obtain ⟨refused, granted⟩ := @origins_granted_as_listed _ twoOrigins _ rfl none
  cases built : App.build? (.ofVariables twoOrigins) none with
  | none => exact absurd (refused.mp built) (by decide +kernel)
  | some app =>
    refine ⟨app, rfl, fun environment machine => ⟨?listed, fun origin => ?longer⟩⟩
    case listed =>
      refine ((granted app built environment _ machine).1 _).mpr ⟨rfl, by decide, ?_, ?_⟩
      · decide +kernel
      · decide +kernel
    case longer =>
      intro named
      obtain ⟨sent, lists⟩ := ((granted app built environment _ machine).1 _).mp named
      obtain rfl := Option.some.inj sent
      exact absurd lists.piece (by decide +kernel)

end Storefront
