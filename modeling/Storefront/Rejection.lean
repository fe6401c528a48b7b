/-
**Rejections.**

What a request is refused for before anything is read or written: a `Rejection` is the cause, and
`Rejection.message` its wording.  The checks are

* `Rejection.readId`: an identifier in any spelling, with white space around it;
* `Rejection.requireText`: something else than white space;
* `Rejection.requireQuantity`: at least one.
-/

import Storefront.Paging.SortOrder
import Storefront.Text.Decimal
import Storefront.Uuid.Reader

namespace Storefront

open Storefront.Text

/-- A field of a new account whose text is too short or too long. -/
inductive LengthFault
  | email
  | fullName
  | location
deriving DecidableEq, Repr

/-- The line that reports the field. -/
def LengthFault.line : LengthFault → String
  | .email => "email: email must be between 3 and 320 characters"
  | .fullName => "full_name: Validation error: length"
  | .location => "location: Validation error: length"

/-- Why a request is refused. -/
inductive Rejection
  | sort (cause : SortError)
  | identifier (field raw : String) (cause : Uuid.ReadError)
  | blank (field : String)
  | quantity (found : Int)
  | lengths (faults : List LengthFault)
  | other (message : String)
deriving DecidableEq

namespace Rejection

/-- What the client is told is wrong with its request. -/
def message : Rejection → String
  | .sort cause => cause.message
  | .identifier field raw cause =>
    "Invalid " ++ field ++ " '" ++ raw ++ "': " ++ cause.message
  | .blank field => field ++ " is required"
  | .quantity found => "quantity must be at least 1, got " ++ String.ofList (signed found)
  | .lengths faults => String.intercalate "\n" (faults.map LengthFault.line)
  | .other message => message

/-- The wording with the kind of failure in front. -/
def text (rejection : Rejection) : String := "Validation failed: " ++ rejection.message

/-! ### Checks -/

/-- Reads an identifier; white space around it does not count. -/
def readId (field raw : String) : Except Rejection Uuid :=
  (Uuid.read (trim raw.toList)).mapError (.identifier field raw)

/-- A text has to hold something else than white space. -/
def requireText (field value : String) : Except Rejection Unit :=
  if isBlank value then .error (.blank field) else .ok ()

/-- A quantity has to be at least one. -/
def requireQuantity (quantity : Int) : Except Rejection Unit :=
  if quantity < 1 then .error (.quantity quantity) else .ok ()

end Rejection

end Storefront
