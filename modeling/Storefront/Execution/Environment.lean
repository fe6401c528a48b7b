/-
**Environments.**

What a program meets when it is run: the identifiers it is given, the readings of the clock, how long each
answer takes, and what becomes of each statement.  Programs are quantified over all of these.
-/

import Storefront.Database.Failure
import Storefront.Database.Statement

namespace Storefront

/-- What becomes of a statement that is sent. -/
inductive Fate
  /-- The server does what it says. -/
  | answered
  /-- The server answers with an error and does nothing. -/
  | refused (report : Report)
  /-- The connection breaks before the server does anything. -/
  | disconnected
  /-- There is never an answer, and the server does nothing. -/
  | silent
  /-- The task that waits for the answer breaks down. -/
  | crashed
deriving DecidableEq

/-- What a program meets. -/
structure Environment where
  /-- The fresh identifiers, in the order in which they are asked for. -/
  id : Nat → Uuid
  /-- The readings of the clock in nanoseconds, in the order in which they are asked for. -/
  clock : Nat → Int
  /-- How many nanoseconds each wait takes, in the order in which they begin. -/
  delay : Nat → Nat
  /-- What becomes of a statement, given those sent before. -/
  fate : List Statement → Statement → Fate

namespace Environment

/-- Does every statement get the answer that the server has for it? -/
def Healthy (environment : Environment) : Prop :=
  ∀ sent statement, environment.fate sent statement = .answered

/-- Are the identifiers different that are given out from the one count to the other? -/
def Fresh (environment : Environment) (first last : Nat) : Prop :=
  ∀ one other, first ≤ one → one < last → first ≤ other → other < last →
    environment.id one = environment.id other → one = other

end Environment

end Storefront
