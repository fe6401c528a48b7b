/-
**The account service.**

What can be asked about accounts, with identifiers and email addresses as texts.  Everything is checked
before the store is asked, and the store is asked at most once.

Main statement: `create_rejected` — a wish that is refused leaves the store alone.
-/

import Storefront.Account.Store
import Storefront.Service.Error

namespace Storefront

open Storefront.Text

/-- The fields whose texts are too short or too long. White space counts. -/
def AccountCommand.lengthFaults (command : AccountCommand) : List LengthFault :=
  let emailFault : Bool := command.email.length < 3 || 320 < command.email.length
  let tooLong (value : Option String) : Bool := value.any fun text => 200 < text.length
  (if emailFault then [.email] else []) ++
    (if tooLong command.fullName then [.fullName] else []) ++
    (if tooLong command.location then [.location] else [])

/-- Checks a wish: an email address has to be there, then the lengths of the texts have to be right. -/
def AccountCommand.check (command : AccountCommand) : Except Rejection Unit := do
  Rejection.requireText "email" command.email
  match command.lengthFaults with
  | [] => return ()
  | faults => throw (.lengths faults)

namespace AccountService

variable {m : Type → Type} [Functor m] [Pure m]

/-- Makes an account for a wish, if its lengths are allowed. -/
def create (store : AccountStore m) (command : AccountCommand) : m (Except ServiceError Account) :=
  match command.check with
  | .error cause => pure (.error (.rejected cause))
  | .ok () =>
    let input := command.toNew
    ServiceError.consult ("failed to create account: " ++ input.email) <$> store.create (some input)

/-- The account with an identifier that is given as a text. -/
def byId (store : AccountStore m) (raw : String) : m (Except ServiceError Account) :=
  match Rejection.readId "account id" raw with
  | .error cause => pure (.error (.rejected cause))
  | .ok id =>
    ServiceError.consult ("failed to get account by id: " ++ id.text) <$> store.byId id

/-- Finds the account with an email address; white space around it does not count. -/
def byEmail (store : AccountStore m) (raw : String) : m (Except ServiceError Account) :=
  match Rejection.requireText "email" raw with
  | .error cause => pure (.error (.rejected cause))
  | .ok () =>
    let email := trimmed raw
    ServiceError.consult ("failed to get account by email: " ++ email) <$> store.byEmail email

/-- A wish that is refused leaves the store alone. -/
theorem create_rejected {store : AccountStore m} {command : AccountCommand} {cause : Rejection}
    (refused : command.check = .error cause) :
    create store command = pure (.error (.rejected cause)) := by
  simp [create, refused]

end AccountService

end Storefront
