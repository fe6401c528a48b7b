/-
**Error answers.**

How a service error is answered: a status, a code that programs read, and a message.  Failures of the
database are not described to clients.
-/

import Storefront.Http.Message
import Storefront.Service.Error

namespace Storefront

/-- What a client is told about an error. -/
structure ErrorAnswer where
  status : Nat
  code : String
  message : String
deriving DecidableEq

namespace ErrorAnswer

/-- The answer to a request that is refused. -/
def refused (cause : Rejection) : ErrorAnswer := ⟨400, "VALIDATION_ERROR", cause.message⟩

/-- The answer when the database fails. -/
def internal : ErrorAnswer := ⟨500, "INTERNAL_ERROR", "An internal error occurred"⟩

/-- The answer to an error of a store. -/
def ofStore : StoreError → ErrorAnswer
  | .nilEntity => ⟨400, "BAD_REQUEST", StoreError.nilEntity.text⟩
  | .notFound entity key => ⟨404, "NOT_FOUND", (StoreError.notFound entity key).text⟩
  | .conflict message => ⟨409, "CONFLICT", message⟩
  | .rejected cause => refused cause
  | .timeout limit => ⟨504, "TIMEOUT", (StoreError.timeout limit).text⟩
  | .transaction _ | .database _ => internal

/-- The answer to an error of a service. -/
def classify : ServiceError → ErrorAnswer
  | .rejected cause => refused cause
  | .failed _ cause => ofStore cause

/-- The response that tells a client of an error: its message and its code. -/
def response (answer : ErrorAnswer) : Response :=
  .ofJson answer.status (.object [("error", .text answer.message), ("code", .text answer.code)])

end ErrorAnswer

/-- The response to a service: its result with a status, or the answer to its error. -/
def Response.ofService {α : Type} (status : Nat) (json : α → Json.Value) :
    Except ServiceError α → Response
  | .ok value => .ofJson status (json value)
  | .error error => (ErrorAnswer.classify error).response

end Storefront
