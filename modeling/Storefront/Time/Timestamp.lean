/-
**Timestamps.**

An instant, counted in nanoseconds from the beginning of the year 1970 in universal time.

* `Timestamp.ofClock` is the instant that an entity keeps of a reading of the clock: whole
  microseconds, as long as the reading fits into sixty-three bits of nanoseconds.
* `Timestamp.stored` is the instant that a column keeps of it.
* `Timestamp.text` writes date and time with the places after the second that are needed, in groups
  of three; `Timestamp.read?` reads such a text, also with an offset from universal time.
-/

import Storefront.Number.Power
import Storefront.Text.Integer
import Storefront.Time.DateReader

namespace Storefront

open Storefront.Text

/-- An instant, counted in nanoseconds from the beginning of the year 1970. -/
structure Timestamp where
  nanos : Int
deriving DecidableEq, Repr

namespace Timestamp

/-- The nanoseconds of a day. -/
def dayNanos : Nat := 86400 * tenTo 9

/-- A reading of the clock without the part below a microsecond. A reading that does not fit into a
signed word of nanoseconds is kept as it is. -/
def ofClock (nanos : Int) : Timestamp :=
  if (IntegerRange.signed 64).contains nanos then ⟨nanos - nanos % 1000⟩ else ⟨nanos⟩

/-- The beginning of the year 2000, from which columns count. -/
def epoch2000 : Int := 946684800 * tenTo 9

/-- What a column keeps: whole microseconds from the beginning of the year 2000. -/
def stored (t : Timestamp) : Timestamp :=
  ⟨epoch2000 + (t.nanos - epoch2000).tdiv 1000 * 1000⟩

/-- An instant of whole microseconds is stored as it is. -/
theorem stored_of_dvd {t : Timestamp} (whole : (1000 : Int) ∣ t.nanos) : t.stored = t := by
  have epoch : (1000 : Int) ∣ epoch2000 := by decide
  have part : (1000 : Int) ∣ t.nanos - epoch2000 := Int.dvd_sub whole epoch
  have back : (t.nanos - epoch2000).tdiv 1000 * 1000 = t.nanos - epoch2000 :=
    Int.tdiv_mul_cancel part
  rw [stored, back]
  rcases t with ⟨nanos⟩
  simp only [mk.injEq]
  omega

/-- The places after the second, none if there are none, in groups of three. -/
def fractionChars (nanos : Nat) : List Char :=
  if nanos = 0 then []
  else if nanos % tenTo 6 = 0 then '.' :: padded 3 (nanos / tenTo 6)
  else if nanos % tenTo 3 = 0 then '.' :: padded 6 (nanos / tenTo 3)
  else '.' :: padded 9 nanos

/-- The characters of an instant: date and time of day in universal time. -/
def chars (t : Timestamp) : List Char :=
  let days := t.nanos / dayNanos
  let rest := (t.nanos % dayNanos).toNat
  let (year, month, day) := Calendar.ofDays days
  let seconds := rest / tenTo 9
  Calendar.dateChars year month day ++ 'T' :: (padded 2 (seconds / 3600) ++
    ':' :: (padded 2 (seconds / 60 % 60) ++ ':' :: (padded 2 (seconds % 60) ++
      (fractionChars (rest % tenTo 9) ++ ['Z']))))

/-- The text of an instant. -/
def text (t : Timestamp) : String := String.ofList t.chars

/-! ### Reading -/

/-- A number of exactly two digits that is less than a bound. -/
def readTwo? (bound : Nat) : List Char → Option (Nat × List Char)
  | c :: d :: rest => do
    let n := (← digit? c) * 10 + (← digit? d)
    if n < bound then some (n, rest) else none
  | _ => none

/-- The nanoseconds that up to nine places after a point stand for. -/
def readFraction? : List Char → Option (Nat × List Char)
  | '.' :: rest =>
    let places := rest.takeWhile Char.isDigit
    if places.isEmpty ∨ 9 < places.length then none
    else
      some (places.foldl (fun n c => n * 10 + (c.toNat - '0'.toNat)) 0 * tenTo (9 - places.length),
        rest.drop places.length)
  | rest => some (0, rest)

/-- The minutes by which a local time is ahead of universal time. -/
def readOffset? : List Char → Option Int
  | ['Z'] => some 0
  | sign :: rest => do
    let (hours, rest) ← readTwo? 24 rest
    let rest ← match rest with
      | ':' :: rest => some rest
      | _ => none
    let (minutes, rest) ← readTwo? 60 rest
    if !rest.isEmpty then none
    else if sign = '+' then some (hours * 60 + minutes)
    else if sign = '-' then some (-(hours * 60 + minutes))
    else none
  | [] => none

/-- Reads date, time and offset. -/
def read? (s : String) : Option Timestamp := do
  let cs := s.toList
  let date ← (Date.read (cs.takeWhile fun c => c != 'T')).toOption
  let (hours, rest) ← readTwo? 24 ((cs.dropWhile fun c => c != 'T').drop 1)
  let rest ← if rest.head? = some ':' then some rest.tail else none
  let (minutes, rest) ← readTwo? 60 rest
  let rest ← if rest.head? = some ':' then some rest.tail else none
  let (seconds, rest) ← readTwo? 60 rest
  let (nanos, rest) ← readFraction? rest
  let offset ← readOffset? rest
  let clock : Int := hours * 3600 + minutes * 60 + seconds
  some ⟨date.daysFromEpoch * dayNanos + (clock - offset * 60) * tenTo 9 + nanos⟩

end Timestamp

end Storefront
