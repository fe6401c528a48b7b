/-
**Database settings.**

Where the database is, how many connections are kept, and how long an operation may take.  The address
is one variable, or is assembled from four of them.
-/

import Storefront.Settings.Variables
import Storefront.Time.Duration

namespace Storefront

/-- How the database is reached, how many connections there are, and how long a query may take. -/
structure DatabaseSettings where
  url : String
  maxOpen : Nat
  maxIdle : Nat
  queryTimeout : Option Duration
deriving DecidableEq

namespace DatabaseSettings

/-- The number of connections when none is given: one more than there are processors. -/
def connections (processors : Nat) : Nat := Nat.min (processors + 1) (twoTo 32 - 1)

/-- The settings for an address, without a time limit. -/
def ofUrl (processors : Nat) (url : String) : DatabaseSettings where
  url := url
  maxOpen := connections processors
  maxIdle := connections processors
  queryTimeout := none

/-- The address of a database. -/
def assemble (user password host name : String) : String :=
  "postgresql://" ++ user ++ ":" ++ password ++ "@" ++ host ++ "/" ++ name ++ "?sslmode=disable"

/-- The address that the variables give. -/
def urlOfVariables (vars : Variables) : String :=
  (vars "DATABASE_URL").getD (assemble
    (vars.text "DB_USER" "dbadmin") (vars.text "DB_PASSWORD" "dbadmin")
    (vars.text "DB_HOST" "localhost:5432") (vars.text "DB_NAME" "storefront"))

/-- A time limit in seconds; zero means none. -/
def limit? (seconds : Nat) : Option Duration :=
  if seconds = 0 then none else some (.ofSeconds seconds)

/-- The settings that the environment gives; what it does not give, or gives wrongly, has a default. -/
def ofVariables (processors : Nat) (vars : Variables) : DatabaseSettings where
  url := urlOfVariables vars
  maxOpen := vars.number "DB_MAX_OPEN_CONN" 32 (connections processors)
  maxIdle := vars.number "DB_MAX_IDLE_CONN" 32 (connections processors)
  queryTimeout := limit? (vars.number "DB_QUERY_TIMEOUT_SECS" 64 0)

end DatabaseSettings

end Storefront
