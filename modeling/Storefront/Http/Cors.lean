/-
**Origins.**

Browsers let a page of another origin use the server only if the server names that origin.  `Cors` holds the
origins that are named, compared as they are written.  Every request with the method `OPTIONS` is
answered here, with what is allowed.

Main statement: `granted_iff` — a response names an origin exactly when the request comes from it and it is
one of the configured ones.
-/

import Storefront.Http.Message
import Storefront.Http.Route
import Storefront.Text.Utf8

namespace Storefront

/-- The origins that may use the server. -/
structure Cors where
  origins : List String

namespace Cors

/-- Can the text stand in a header? Of its bytes none may control anything but a tab. -/
def isHeaderText (text : String) : Bool :=
  (Text.Utf8.bytes text).all fun byte => byte == 0x09 || (0x20 ≤ byte && byte != 0x7F)

/-- The origins of the settings, without those that cannot stand in a header. A wildcard among them is not
compatible with credentials. -/
def ofOrigins? (origins : List String) : Option Cors :=
  if origins.contains "*" then none else some ⟨origins.filter isHeaderText⟩

/-- The origin that a request is granted, if it comes from one. -/
def granted? (cors : Cors) (request : Request) : Option String :=
  match request.header? "origin" with
  | some origin => if cors.origins.contains origin then some origin else none
  | none => none

/-- The header that names the origin of a request. -/
def grant (cors : Cors) (request : Request) : Headers :=
  match cors.granted? request with
  | some origin => [("access-control-allow-origin", origin)]
  | none => []

/-- The headers of every response. -/
def always : Headers :=
  [("vary", "origin, access-control-request-method, access-control-request-headers"),
    ("access-control-allow-credentials", "true")]

/-- A response with what its request is granted. -/
def extend (cors : Cors) (request : Request) (response : Response) : Response :=
  response.withHeaders (always ++ cors.grant request)

/-- The answer to a question what is allowed. -/
def preflight (cors : Cors) (request : Request) : Response :=
  let allow : Headers := match Route.ofPath? request.path with
    | some route => [("allow", route.allowed)]
    | none => []
  cors.extend request {
    status := 200
    headers := [
      ("access-control-allow-methods", "GET,POST"),
      ("access-control-allow-headers", "content-type"),
      ("access-control-max-age", "3600")] ++ allow }

/-- A request is granted an origin exactly when it comes from it and it is one of the configured ones. -/
theorem granted_iff {cors : Cors} {request : Request} {origin : String} :
    cors.granted? request = some origin ↔
      request.header? "origin" = some origin ∧ origin ∈ cors.origins := by
  unfold granted?
  cases request.header? "origin" with
  | none => simp
  | some found =>
    by_cases listed : found ∈ cors.origins
    · simp only [List.contains_iff_mem, listed, if_true, Option.some.injEq]
      constructor
      · rintro rfl; exact ⟨rfl, listed⟩
      · exact fun ⟨same, _⟩ => same
    · simp only [List.contains_iff_mem, listed, if_false, Option.some.injEq, reduceCtorEq, false_iff]
      rintro ⟨rfl, member⟩
      exact listed member

end Cors

end Storefront
