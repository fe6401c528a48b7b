/-
**Lower case.**

Only the ASCII letters from A to Z have a lower case of their own (`toLower_cases`).  So size, white
space, separators that are no letters, and hexadecimal digits are the same in a text and in the text in
lower case.

Main statements:

* `pieces_lower`: a text is cut at the same places;
* `hexDigits?_eq_some_iff`: digits are read from what in lower case are their characters.
-/

import Storefront.Text.Hexadecimal
import Storefront.Text.Space
import Storefront.Text.Utf8

namespace Storefront.Text

/-- A text in lower case; only ASCII letters have one. -/
def lower (cs : List Char) : List Char := cs.map Char.toLower

/-- A character is in lower case already, or it is one of the letters from A to Z. -/
theorem toLower_cases (c : Char) : c.toLower = c ∨ ∃ n < 26, c = Char.ofNat (65 + n) := by
  by_cases letter : c.val ≥ 'A'.val ∧ c.val ≤ 'Z'.val
  · have low : 65 ≤ c.toNat := UInt32.le_iff_toNat_le.mp letter.1
    have high : c.toNat ≤ 90 := UInt32.le_iff_toNat_le.mp letter.2
    refine .inr ⟨c.toNat - 65, by omega, ?_⟩
    rw [Nat.add_sub_cancel' low, Char.ofNat_toNat]
  · exact .inl (dif_neg letter)

variable {c mark : Char}

/-- Only the character itself becomes a character that is no letter. -/
theorem toLower_eq_iff (other : mark.isAlpha = false) : c.toLower = mark ↔ c = mark := by
  rcases toLower_cases c with same | ⟨n, small, rfl⟩
  · rw [same]
  · have letters : ∀ n < 26, (Char.ofNat (65 + n)).isAlpha = true ∧
        (Char.ofNat (65 + n)).toLower.isAlpha = true := by decide
    obtain ⟨upper, lowered⟩ := letters n small
    constructor
    · rintro rfl
      rw [lowered] at other
      cases other
    · rintro rfl
      rw [upper] at other
      cases other

theorem toLower_toLower (c : Char) : c.toLower.toLower = c.toLower := by
  rcases toLower_cases c with same | ⟨n, small, rfl⟩
  · rw [same, same]
  · have letters : ∀ n < 26,
        (Char.ofNat (65 + n)).toLower.toLower = (Char.ofNat (65 + n)).toLower := by decide
    exact letters n small

theorem utf8Size_toLower (c : Char) : c.toLower.utf8Size = c.utf8Size := by
  rcases toLower_cases c with same | ⟨n, small, rfl⟩
  · rw [same]
  · have letters : ∀ n < 26,
        (Char.ofNat (65 + n)).toLower.utf8Size = (Char.ofNat (65 + n)).utf8Size := by decide
    exact letters n small

theorem isSpace_toLower (c : Char) : isSpace c.toLower = isSpace c := by
  rcases toLower_cases c with same | ⟨n, small, rfl⟩
  · rw [same]
  · have letters : ∀ n < 26,
        isSpace (Char.ofNat (65 + n)).toLower = isSpace (Char.ofNat (65 + n)) := by decide
    exact letters n small

theorem lower_lower (cs : List Char) : lower (lower cs) = lower cs := by
  rw [lower, lower, List.map_map]
  exact List.map_congr_left fun c _ => toLower_toLower c

theorem size_lower (cs : List Char) : Utf8.size (lower cs) = Utf8.size cs := by
  induction cs with
  | nil => rfl
  | cons c rest ih =>
    show (c.toLower).utf8Size + Utf8.size (lower rest) = c.utf8Size + Utf8.size rest
    rw [utf8Size_toLower, ih]

theorem flatten_map_lower (groups : List (List Char)) :
    (groups.map lower).flatten = lower groups.flatten :=
  List.map_flatten.symm

theorem pieces_lower (other : mark.isAlpha = false) (cs : List Char) :
    pieces mark (lower cs) = (pieces mark cs).map lower := by
  induction cs with
  | nil => rfl
  | cons c rest ih =>
    show pieces mark (c.toLower :: lower rest) = (pieces mark (c :: rest)).map lower
    by_cases same : c = mark
    · simp only [pieces, if_pos same, if_pos ((toLower_eq_iff other).mpr same), ih]
      rfl
    · have lowered : ¬ c.toLower = mark := fun equal => same ((toLower_eq_iff other).mp equal)
      simp only [pieces, if_neg same, if_neg lowered, ih]
      cases pieces mark rest <;> rfl

/-- Digits are ASCII characters. -/
theorem hexDigit?_eq_none_of_le (beyond : 128 ≤ c.toNat) : hexDigit? c = none := by
  have above : ∀ {last : Char}, last.toNat < 128 → ¬ c ≤ last := by
    intro last small below
    have : c.toNat ≤ last.toNat := UInt32.le_iff_toNat_le.mp below
    omega
  rw [hexDigit?, if_neg fun range => above (by decide) range.2, if_neg fun range =>
    above (by decide) range.2, if_neg fun range => above (by decide) range.2]

theorem toLower_of_le (beyond : 128 ≤ c.toNat) : c.toLower = c := by
  rcases toLower_cases c with same | ⟨n, small, rfl⟩
  · exact same
  · have letters : ∀ n < 26, (Char.ofNat (65 + n)).toNat < 128 := by decide
    exact absurd beyond (Nat.not_le.mpr (letters n small))

/-- A character is a digit exactly if it is the character of the digit in lower case. -/
theorem hexDigit?_eq_some_iff {digit : Fin 16} :
    hexDigit? c = some digit ↔ c.toLower = hexChar digit := by
  by_cases ascii : c.toNat < 128
  · have all : ∀ n < 128, ∀ digit : Fin 16,
        hexDigit? (Char.ofNat n) = some digit ↔ (Char.ofNat n).toLower = hexChar digit := by
      decide +kernel
    have checked := all c.toNat ascii digit
    rwa [Char.ofNat_toNat] at checked
  · have digits : ∀ digit, (hexChar digit).toNat < 128 := by decide
    rw [hexDigit?_eq_none_of_le (Nat.not_lt.mp ascii), toLower_of_le (Nat.not_lt.mp ascii)]
    constructor
    · exact nofun
    · rintro rfl
      exact absurd (digits digit) ascii

theorem hexDigits?_eq_some_iff {cs : List Char} {digits : List (Fin 16)} :
    hexDigits? cs = some digits ↔ lower cs = digits.map hexChar := by
  induction cs generalizing digits with
  | nil => cases digits <;> simp [hexDigits?, lower]
  | cons c rest ih =>
    cases digits with
    | nil => simp [hexDigits?, lower, Option.bind_eq_some_iff]
    | cons digit digits =>
      simp only [hexDigits?, Option.bind_eq_bind, Option.bind_eq_some_iff, Option.pure_def,
        Option.some.injEq, List.cons.injEq, hexDigit?_eq_some_iff, ih]
      show _ ↔ c.toLower :: lower rest = hexChar digit :: digits.map hexChar
      rw [List.cons.injEq]
      constructor
      · rintro ⟨_, first, _, others, rfl, rfl⟩
        exact ⟨first, others⟩
      · rintro ⟨first, others⟩
        exact ⟨_, first, _, others, rfl, rfl⟩

end Storefront.Text
