/-
**Dates.**

Days of the Gregorian calendar, extended to all years from -262143 to 262142.  A `Date` exists in
that calendar by construction.

* `Date.text` writes year, month and day with hyphens; a year of fewer than four digits is filled
  up, a year outside 0 to 9999 has a sign.
* `daysFromEpoch` counts the days since the first of January 1970 and `Calendar.ofDays` undoes it.
-/

import Storefront.Text.Decimal

namespace Storefront

open Storefront.Text

namespace Calendar

/-- Has this year a twenty-ninth of February? -/
def isLeap (year : Int) : Bool := year % 4 == 0 && (year % 100 != 0 || year % 400 == 0)

/-- How many days a month has. -/
def daysInMonth (year : Int) (month : Nat) : Nat :=
  if month = 2 then (if isLeap year then 29 else 28)
  else if month = 4 ∨ month = 6 ∨ month = 9 ∨ month = 11 then 30
  else 31

/-- Does the day exist, in a year of the supported range? -/
def Exists (year : Int) (month day : Nat) : Prop :=
  (-262143 ≤ year ∧ year ≤ 262142) ∧ (1 ≤ month ∧ month ≤ 12) ∧
    (1 ≤ day ∧ day ≤ daysInMonth year month)

instance (year : Int) (month day : Nat) : Decidable (Exists year month day) :=
  inferInstanceAs (Decidable (_ ∧ _))

/-- The days from the first of January 1970 to a day. Years are counted from March, so that the day
that leap years add is the last one. -/
def daysFromEpoch (year : Int) (month day : Nat) : Int :=
  let shifted := if month ≤ 2 then year - 1 else year
  let era := shifted / 400
  let yearOfEra := shifted % 400
  let dayOfYear : Int := (153 * ((month + 9) % 12) + 2) / 5 + day - 1
  let dayOfEra := yearOfEra * 365 + yearOfEra / 4 - yearOfEra / 100 + dayOfYear
  era * 146097 + dayOfEra - 719468

/-- The year, month and day that lie a number of days after the first of January 1970. -/
def ofDays (days : Int) : Int × Nat × Nat :=
  let shifted := days + 719468
  let era := shifted / 146097
  let dayOfEra := shifted % 146097
  let yearOfEra := (dayOfEra - dayOfEra / 1460 + dayOfEra / 36524 - dayOfEra / 146096) / 365
  let dayOfYear := dayOfEra - (365 * yearOfEra + yearOfEra / 4 - yearOfEra / 100)
  let monthFromMarch := (5 * dayOfYear + 2) / 153
  let day := (dayOfYear - (153 * monthFromMarch + 2) / 5 + 1).toNat
  let month := if monthFromMarch < 10 then monthFromMarch.toNat + 3 else monthFromMarch.toNat - 9
  let year := yearOfEra + era * 400
  (if month ≤ 2 then year + 1 else year, month, day)

/-- A year: four digits, or a sign and at least four digits outside 0 to 9999. -/
def yearChars (year : Int) : List Char :=
  if year < 0 then '-' :: padded 4 year.natAbs
  else if 9999 < year then '+' :: padded 4 year.natAbs
  else padded 4 year.natAbs

/-- Year, month and day with hyphens between them. -/
def dateChars (year : Int) (month day : Nat) : List Char :=
  yearChars year ++ '-' :: (padded 2 month ++ '-' :: padded 2 day)

end Calendar

/-- A day of the calendar. -/
structure Date where
  year : Int
  month : Nat
  day : Nat
  real : Calendar.Exists year month day
deriving DecidableEq

namespace Date

/-- The day with this year, month and number, if there is one. -/
def ofParts? (year : Int) (month day : Nat) : Option Date :=
  if real : Calendar.Exists year month day then some ⟨year, month, day, real⟩ else none

/-- Year, month and day of a date with hyphens between them. -/
def chars (date : Date) : List Char := Calendar.dateChars date.year date.month date.day

/-- The text of a date. -/
def text (date : Date) : String := String.ofList date.chars

/-- The days from the first of January 1970 to this date. -/
def daysFromEpoch (date : Date) : Int := Calendar.daysFromEpoch date.year date.month date.day

@[simp]
theorem ofParts?_parts (date : Date) : ofParts? date.year date.month date.day = some date := by
  simp [ofParts?, date.real]

end Date

end Storefront
