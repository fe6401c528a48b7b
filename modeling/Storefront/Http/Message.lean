/-
**Requests and responses.**

A `Request` has a method, a target, headers and a body of bytes; a `Response` has a status, headers and a
text.  Header names are in lower case.
-/

import Storefront.Json.Value

namespace Storefront

/-- Names and values of headers, in order. -/
abbrev Headers := List (String × String)

/-- What a client sends. -/
structure Request where
  method : String := "GET"
  target : String
  headers : Headers := []
  body : List UInt8 := []

/-- What a client gets. -/
structure Response where
  status : Nat
  headers : Headers := []
  body : String := ""
deriving DecidableEq

namespace Request

/-- The first value of a header. -/
def header? (request : Request) (name : String) : Option String := request.headers.lookup name

/-- The target up to a fragment. -/
def resource (request : Request) : List Char := request.target.toList.takeWhile fun c => c != '#'

/-- The target up to a query. -/
def path (request : Request) : List Char := request.resource.takeWhile fun c => c != '?'

/-- The query, without the question mark. -/
def query (request : Request) : List Char := (request.resource.dropWhile fun c => c != '?').drop 1

end Request

namespace Response

/-- A response without a text. -/
def ofStatus (status : Nat) : Response := { status := status }

/-- A response that is a JSON value. -/
def ofJson (status : Nat) (value : Json.Value) : Response where
  status := status
  headers := [("content-type", "application/json")]
  body := value.render

/-- A response that is a plain text. -/
def ofText (status : Nat) (text : String) : Response where
  status := status
  headers := [("content-type", "text/plain; charset=utf-8")]
  body := text

/-- The first value of a header. -/
def header? (response : Response) (name : String) : Option String := response.headers.lookup name

/-- The response with further headers behind its own. -/
def withHeaders (response : Response) (headers : Headers) : Response :=
  { response with headers := response.headers ++ headers }

/-- The response as it answers a `HEAD` request. -/
def withoutBody (response : Response) : Response := { response with body := "" }

@[simp]
theorem status_withHeaders (response : Response) (headers : Headers) :
    (response.withHeaders headers).status = response.status := rfl

@[simp]
theorem body_withHeaders (response : Response) (headers : Headers) :
    (response.withHeaders headers).body = response.body := rfl

end Response

end Storefront
