/-
**Errors of the services.**

A service refuses a request before it asks its store anything, or the store fails; then the error says what
was being done.

Main statement: `storeError?_consult` — what a store answers comes back unchanged.
-/

import Storefront.Store.Error

namespace Storefront

/-- Why a service does not do what it is asked for. -/
inductive ServiceError
  | rejected (cause : Rejection)
  | failed (context : String) (cause : StoreError)
deriving DecidableEq

namespace ServiceError

/-- The message of an error: why the request is refused, or what was being done. -/
def text : ServiceError → String
  | .rejected cause => cause.text
  | .failed context _ => context

/-- The messages below that of an error, outermost first. -/
def causes : ServiceError → List String
  | .rejected _ => []
  | .failed _ cause => cause.text :: cause.causes

/-- The error of the store, if it is one. -/
def storeError? : ServiceError → Option StoreError
  | .rejected _ => none
  | .failed _ cause => some cause

/-- The answer of a store, with what was being done if it is an error. -/
def consult {α : Type} (context : String) (answer : Except StoreError α) : Except ServiceError α :=
  answer.mapError (.failed context)

/-- What a store answers comes back unchanged. -/
theorem storeError?_consult {α : Type} (context : String) (answer : Except StoreError α) :
    (consult context answer).mapError storeError? = answer.mapError some := by
  cases answer <;> rfl

end ServiceError

end Storefront
