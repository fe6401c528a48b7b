/-
**Dates that are written are read.**

A date is written with two digits each for month and day and with at least four for the year, which
has a sign if it lies outside 0 to 9999.  Reading takes the digits of a year up to the hyphen behind them
if there is a sign, and at most four of them otherwise, which is as many as have been written.

Main statements:

* `Date.readNumber_padded`: a number that is filled up with zeros is read as the number;
* `Date.readYear_yearChars`: so is every year of the calendar;
* `Date.read_chars`: a date is read as it is written.
-/

import Storefront.Time.DateReader

namespace Storefront

open Storefront.Text

/-! ### Numbers with zeros in front -/

namespace Text

variable {width n : Nat}

theorem isDigit_of_mem_padded {c : Char} (member : c ∈ padded width n) : c.isDigit = true := by
  rcases List.mem_append.mp member with zero | digit
  · rw [List.eq_of_mem_replicate zero]
    rfl
  · exact Nat.isDigit_of_mem_toDigits (by decide) (by decide) digit

theorem ofDigitChars_cons (c : Char) (cs : List Char) (n : Nat) :
    Nat.ofDigitChars 10 (c :: cs) n = Nat.ofDigitChars 10 cs (n * 10 + (c.toNat - '0'.toNat)) := by
  rw [Nat.mul_comm]
  rfl

theorem isSpace_of_isDigit {c : Char} (digit : c.isDigit = true) : isSpace c = false := by
  have bounds : 48 ≤ c.toNat ∧ c.toNat ≤ 57 := Char.isDigit_iff_toNat.mp digit
  simp only [isSpace, Bool.or_eq_false_iff, Bool.and_eq_false_iff, decide_eq_false_iff_not,
    beq_eq_false_iff_ne]
  omega

/-- Zeros in front do not count. -/
theorem ofDigitChars_padded : Nat.ofDigitChars 10 (padded width n) 0 = n := by
  rw [padded, Nat.ofDigitChars_append, Nat.ofDigitChars_replicate_zero, Nat.mul_zero]
  exact Nat.ofDigitChars_toDigits (by decide) (by decide)

/-- There is at least one digit. -/
theorem exists_cons_padded (width n : Nat) : ∃ c cs, padded width n = c :: cs ∧ c.isDigit = true := by
  cases written : padded width n with
  | nil => exact absurd written (List.append_ne_nil_of_right_ne_nil _ Nat.toDigits_ne_nil)
  | cons c cs => exact ⟨c, cs, rfl, isDigit_of_mem_padded (written ▸ List.mem_cons_self)⟩

/-- So nothing but a digit stands in front. -/
theorem padded_append_ne_cons {mark : Char} {cs rest : List Char} (other : mark.isDigit = false) :
    padded width n ++ rest ≠ mark :: cs := by
  obtain ⟨c, digits, written, digit⟩ := exists_cons_padded width n
  rw [written]
  intro same
  obtain rfl : c = mark := (List.cons.inj same).1
  exact Bool.false_ne_true (other.symm.trans digit)

/-- A number of at most as many digits takes exactly the places it is given. -/
theorem length_padded (wide : 0 < width) (fits : n < tenTo width) : (padded width n).length = width := by
  have short : (digits n).length ≤ width := (Nat.length_toDigits_le_iff (by decide) wide).mpr fits
  rw [padded, List.length_append, List.length_replicate]
  omega

end Text

namespace Date

/-! ### Numbers -/

/-- Digits are read up to where no digit follows or no more are wanted. -/
theorem readMore_digits {cs rest : List Char} (digits : ∀ c ∈ cs, c.isDigit = true) {room n : Nat}
    (enough : cs.length ≤ room) (ends : cs.length = room ∨ ∀ c ∈ rest.head?, c.isDigit = false)
    (small : Nat.ofDigitChars 10 cs n < twoTo 63) :
    readMore room n (cs ++ rest) = .ok (Nat.ofDigitChars 10 cs n, rest) := by
  induction cs generalizing room n with
  | nil =>
    match room, rest with
    | 0, _ => rfl
    | _ + 1, [] => rfl
    | _ + 1, c :: rest =>
      have other : c.isDigit = false := (ends.resolve_left nofun) c rfl
      rw [List.nil_append, readMore, digit?, other]
      rfl
  | cons c cs ih =>
    obtain ⟨digit, digits⟩ := List.forall_mem_cons.mp digits
    obtain ⟨room, rfl⟩ : ∃ less, room = less + 1 := ⟨room - 1, by simp at enough; omega⟩
    rw [ofDigitChars_cons] at small ⊢
    have grows : n * 10 + (c.toNat - '0'.toNat) ≤
        Nat.ofDigitChars 10 cs (n * 10 + (c.toNat - '0'.toNat)) := by
      rw [Nat.ofDigitChars_eq_ofDigitChars_zero]
      exact Nat.le_add_right_of_le (Nat.le_mul_of_pos_left _ (Nat.pow_pos (by decide)))
    rw [List.cons_append, readMore, digit?, if_pos digit]
    dsimp only
    rw [if_pos (Nat.lt_of_le_of_lt grows small)]
    exact ih digits (by simpa using enough) (by simpa using ends) small

/-- A number that is filled up with zeros is read as the number. -/
theorem readNumber_padded {width places n : Nat} {rest : List Char}
    (enough : (padded width n).length ≤ places)
    (ends : (padded width n).length = places ∨ ∀ c ∈ rest.head?, c.isDigit = false)
    (small : n < twoTo 63) : readNumber places (padded width n ++ rest) = .ok (n, rest) := by
  have digits : ∀ c ∈ padded width n, c.isDigit = true := fun _ => isDigit_of_mem_padded
  have value : Nat.ofDigitChars 10 (padded width n) 0 = n := ofDigitChars_padded
  obtain ⟨c, cs, written, digit⟩ := exists_cons_padded width n
  rw [written] at enough ends digits value
  rw [ofDigitChars_cons, Nat.zero_mul, Nat.zero_add] at value
  rw [List.length_cons] at enough ends
  rw [written, List.cons_append, readNumber, digit?, if_pos digit]
  dsimp only
  rw [readMore_digits (List.forall_mem_cons.mp digits).2 (by omega) (ends.imp_left (by omega))
    (value ▸ small), value]

/-! ### Years, months and days -/

/-- There is no white space to skip before a digit. -/
theorem skip_padded (width n : Nat) (rest : List Char) :
    skip (padded width n ++ rest) = padded width n ++ rest := by
  obtain ⟨c, cs, written, digit⟩ := exists_cons_padded width n
  rw [written]
  exact List.dropWhile_cons_of_neg (by simp [isSpace_of_isDigit digit])

/-- Nor before a year, which may begin with a sign. -/
theorem skip_yearChars (year : Int) (rest : List Char) :
    skip (Calendar.yearChars year ++ rest) = Calendar.yearChars year ++ rest := by
  unfold Calendar.yearChars
  split
  · rfl
  · split
    · rfl
    · exact skip_padded 4 _ rest

/-- **A year is read as it is written.** -/
theorem readYear_yearChars {year : Int} (lowest : -262143 ≤ year) (highest : year ≤ 262142)
    (rest : List Char) :
    readYear (Calendar.yearChars year ++ '-' :: rest) = .ok (year, '-' :: rest) := by
  have fits : (IntegerRange.signed 32).contains year = true := by
    have bounds : (IntegerRange.signed 32).lowest ≤ -262143 ∧
        262142 ≤ (IntegerRange.signed 32).highest := by
      decide
    exact IntegerRange.contains_iff.mpr (by omega)
  have small : year.natAbs < twoTo 63 := by
    have large : 262143 < twoTo 63 := by decide
    omega
  have hyphen : ∀ c ∈ ('-' :: rest).head?, c.isDigit = false := by
    rintro _ ⟨⟩
    rfl
  -- Behind a sign there is room for all of the digits.
  have signed : readNumber (padded 4 year.natAbs ++ '-' :: rest).length
      (padded 4 year.natAbs ++ '-' :: rest) = .ok (year.natAbs, '-' :: rest) :=
    readNumber_padded (by simp) (.inr hyphen) small
  unfold Calendar.yearChars
  by_cases negative : year < 0
  · rw [if_pos negative, List.cons_append, readYear, signed]
    have same : -(year.natAbs : Int) = year := by omega
    simp only [Except.map, bind, Except.bind, same]
    exact if_pos fits
  · have same : (year.natAbs : Int) = year := by omega
    by_cases beyond : 9999 < year
    · rw [if_neg negative, if_pos beyond, List.cons_append, readYear, signed]
      simp only [Except.map, bind, Except.bind, same]
      exact if_pos fits
    · have four : year.natAbs < tenTo 4 := by
        have places : tenTo 4 = 10000 := rfl
        omega
      have size : (padded 4 year.natAbs).length = 4 := length_padded (by decide) four
      have unsigned : readNumber 4 (padded 4 year.natAbs ++ '-' :: rest) = .ok (year.natAbs, '-' :: rest) :=
        readNumber_padded (by omega) (.inl size) small
      rw [if_neg negative, if_neg beyond, readYear, unsigned]
      · simp only [Except.map, bind, Except.bind, same]
        exact if_pos fits
      · exact fun _ => padded_append_ne_cons rfl
      · exact fun _ => padded_append_ne_cons rfl

/-- A month or a day is read as it is written. -/
theorem readPart_padded {highest n : Nat} (positive : 1 ≤ n) (inside : n ≤ highest)
    (two : highest < tenTo 2) (rest : List Char) :
    readPart highest (padded 2 n ++ rest) = .ok (n, rest) := by
  have size : (padded 2 n).length = 2 := length_padded (by decide) (Nat.lt_of_le_of_lt inside two)
  have large : tenTo 2 < twoTo 63 := by decide
  rw [readPart, readNumber_padded (by omega) (.inl size) (by omega)]
  exact if_pos ⟨positive, inside⟩

/-- **A date is read as it is written.** -/
theorem read_chars (date : Date) : read date.chars = .ok date := by
  obtain ⟨⟨lowest, highest⟩, ⟨january, december⟩, first, last⟩ := date.real
  have month : Calendar.daysInMonth date.year date.month ≤ 31 := by
    unfold Calendar.daysInMonth
    repeat' split
    all_goals decide
  have hyphen : ∀ rest, readHyphen (skip ('-' :: rest)) = .ok rest := fun _ => rfl
  have day : readPart 31 (skip (padded 2 date.day)) = .ok (date.day, []) := by
    have read : readPart 31 (padded 2 date.day ++ []) = .ok (date.day, []) :=
      readPart_padded first (Nat.le_trans last month) (by decide) []
    rwa [← skip_padded, List.append_nil] at read
  rw [chars, Calendar.dateChars, read, skip_yearChars, readYear_yearChars lowest highest]
  simp only [bind, Except.bind, hyphen, skip_padded, readPart_padded january december (by decide), day]
  simp [skip, pure, Except.pure]

end Date

end Storefront
