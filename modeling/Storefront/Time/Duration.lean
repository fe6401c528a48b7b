/-
**Durations.**

A length of time in nanoseconds.  It is written in the largest of the units s, ms, µs and ns of
which it has at least one, with the places after the point that are not zero.
-/

import Storefront.Number.Power
import Storefront.Text.Decimal

namespace Storefront

open Storefront.Text

/-- A length of time. -/
structure Duration where
  nanos : Nat
deriving DecidableEq, Repr

namespace Duration

instance : LE Duration := ⟨fun first second => first.nanos ≤ second.nanos⟩

instance (first second : Duration) : Decidable (first ≤ second) :=
  inferInstanceAs (Decidable (first.nanos ≤ second.nanos))

/-- Seconds and nanoseconds. -/
def ofParts (seconds nanos : Nat) : Duration := ⟨seconds * tenTo 9 + nanos⟩

/-- A number of seconds. -/
def ofSeconds (seconds : Nat) : Duration := ofParts seconds 0

/-- A number of milliseconds. -/
def ofMillis (millis : Nat) : Duration := ⟨millis * tenTo 6⟩

/-- A length of time in a unit of `10 ^ places` nanoseconds. -/
def inUnit (places : Nat) (unit : String) (duration : Duration) : String :=
  String.ofList (digits (duration.nanos / tenTo places)
    ++ fraction places (duration.nanos % tenTo places)) ++ unit

/-- The length of time in the largest unit of which there is at least one. -/
def text (duration : Duration) : String :=
  if tenTo 9 ≤ duration.nanos then duration.inUnit 9 "s"
  else if tenTo 6 ≤ duration.nanos then duration.inUnit 6 "ms"
  else if tenTo 3 ≤ duration.nanos then duration.inUnit 3 "µs"
  else duration.inUnit 0 "ns"

end Duration

end Storefront
