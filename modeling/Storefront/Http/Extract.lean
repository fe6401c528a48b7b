/-
**Parts of requests.**

What a handler needs of a request: the identifier in its path, the query for a page, or a JSON body.  A part
that cannot be had is answered at once with a plain text.

A body is taken only if its media type is JSON, and then only up to a size.

Main statement: `body_ok_iff` — a body is accepted exactly when its media type is JSON, it is not too large,
and it decodes.
-/

import Storefront.Http.Form
import Storefront.Http.MediaType
import Storefront.Http.Message
import Storefront.Json.Decode
import Storefront.Number.Power

namespace Storefront.Extract

open Storefront.Text Storefront.Json

/-- The largest size of a body in bytes. -/
def maxBodySize : Nat := twoTo 21

/-- The identifier that a part of a path means. -/
def id (raw : List Char) : Except Response String :=
  match Symbol.text? (Percent.symbols raw) with
  | some id => .ok id
  | none => .error (.ofText 400 "Invalid URL: Invalid UTF-8 in `id`")

/-- The query for a page. -/
def pageQuery (request : Request) : Except Response PageQuery :=
  (PageQuery.ofForm request.query).mapError fun cause =>
    .ofText 400 ("Failed to deserialize query string: " ++ cause.message)

/-- The refusal of a body that is not declared to be JSON. -/
def unsupported : Response := .ofText 415 "Expected request with `Content-Type: application/json`"

/-- The refusal of a body that is longer than is read. -/
def tooLarge : Response :=
  .ofText 413 "Failed to buffer the request body: length limit exceeded"

/-- The response to a body that cannot be read. -/
def unreadable : ReadError → Response
  | .malformed => .ofText 400 "Failed to parse the request body as JSON"
  | .mismatch path cause =>
    let place := if path.isEmpty then "" else pathText path ++ ": "
    .ofText 422 ("Failed to deserialize the JSON body into the target type: " ++ place ++ cause.message)

/-- Is the body said to be JSON? -/
def isJson (request : Request) : Bool := (request.header? "content-type").any MediaType.isJson

/-- The JSON body. -/
def body {α : Type} (decode : Decoder α) (request : Request) : Except Response α :=
  if isJson request then
    if maxBodySize < request.body.length then .error tooLarge
    else (read decode (Utf8.symbols request.body)).mapError unreadable
  else .error unsupported

/-- A body is accepted exactly when its media type is JSON, it is not too large, and it decodes. -/
theorem body_ok_iff {α : Type} {decode : Decoder α} {request : Request} {value : α} :
    body decode request = .ok value ↔
      isJson request = true ∧ request.body.length ≤ maxBodySize ∧
        read decode (Utf8.symbols request.body) = .ok value := by
  unfold body
  split
  · next json =>
    split
    · next large => simp [json]; omega
    · next small =>
      delta Except.mapError
      cases read decode (Utf8.symbols request.body) <;> simp [json]
      omega
  · next other => simp [other]

end Storefront.Extract
