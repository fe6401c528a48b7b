/-
**Server settings.**

Where the server listens, which origins may use it from a browser, and how long it waits.
`ServerSettings.ofVariables` reads them.

Main statement: `mem_readOrigins_iff` — an origin is allowed exactly when it is one of the pieces between
commas, trimmed, and not empty.
-/

import Storefront.Settings.Variables

namespace Storefront

open Storefront.Text

/-- Where the server listens, whom it serves, and for how many seconds it waits. -/
structure ServerSettings where
  host : String := "0.0.0.0"
  port : Nat := 3000
  origins : List String := ["http://localhost:5173"]
  requestTimeout : Nat := 30
  shutdownTimeout : Nat := 30
deriving DecidableEq

namespace ServerSettings

/-- The origins between commas, trimmed, without the empty ones. -/
def readOrigins (raw : String) : List String :=
  (((pieces ',' raw.toList).map trim).filter fun piece => !piece.isEmpty).map String.ofList

/-- The settings that the environment gives; what it does not give, or gives wrongly, has a default. -/
def ofVariables (vars : Variables) : ServerSettings where
  host := vars.text "HOST" "0.0.0.0"
  port := vars.number "PORT" 16 3000
  origins := readOrigins (vars.text "CORS_ORIGINS" "http://localhost:5173")
  requestTimeout := vars.number "REQUEST_TIMEOUT_SECS" 64 30
  shutdownTimeout := vars.number "SHUTDOWN_TIMEOUT_SECS" 64 30

/-- An origin is allowed exactly when it is one of the pieces, trimmed, and not empty. -/
theorem mem_readOrigins_iff {raw origin : String} :
    origin ∈ readOrigins raw ↔
      origin ≠ "" ∧ ∃ piece ∈ pieces ',' raw.toList, origin = String.ofList (trim piece) := by
  simp only [readOrigins, List.mem_map, List.mem_filter]
  constructor
  · rintro ⟨cs, ⟨⟨piece, member, rfl⟩, filled⟩, rfl⟩
    refine ⟨?_, piece, member, rfl⟩
    intro empty
    have : trim piece = [] := by simpa using congrArg String.toList empty
    simp [this] at filled
  · rintro ⟨filled, piece, member, rfl⟩
    refine ⟨trim piece, ⟨⟨piece, member, rfl⟩, ?_⟩, rfl⟩
    cases found : trim piece with
    | nil => simp [found] at filled
    | cons c rest => rfl

end ServerSettings

end Storefront
