/-
**How identifiers are spelled.**

An identifier has four spellings: its thirty-two digits, its hyphenated form, and that form between
braces or after `urn:uuid:`.  Letters of either case will do (`Uuid.Spelling`).

Reading compares sizes in bytes, looks for braces and for the beginning of a resource name, and cuts
the rest at hyphens.  None of that depends on case: a text and the text in lower case have the same
size, the same hyphens and the same digits.  So all is reduced to texts in lower case, of which there
are four for each identifier.

Main statements:

* `Uuid.read_eq_ok_iff`: what is read as an identifier is one of its spellings, and all of them are;
* `Uuid.Spelling.trim_eq`: there is no white space in a spelling.
-/

import Storefront.Proofs.Text.Case
import Storefront.Proofs.Text.Layout
import Storefront.Uuid.Reader

namespace Storefront

open Storefront.Text

namespace Uuid

variable {id : Uuid} {cs inner : List Char}

/-! ### Spellings -/

/-- The ways in which an identifier may be spelled, with letters of either case. -/
inductive Spelling (id : Uuid) (cs : List Char) : Prop
  /-- Thirty-two digits. -/
  | plain (same : lower cs = id.digits.map hexChar)
  /-- Groups of eight, four, four, four and twelve digits with hyphens between them. -/
  | hyphenated (same : lower cs = id.chars)
  /-- The hyphenated form between braces. -/
  | braced (same : lower cs = '\x7b' :: (id.chars ++ ['\x7d']))
  /-- The hyphenated form as the name of a resource. -/
  | resource (same : lower cs = "urn:uuid:".toList ++ id.chars)

/-! ### Digits and groups -/

theorem ofDigits?_eq_some_iff {digits : List (Fin 16)} :
    ofDigits? digits = some id ↔ digits = id.digits := by
  unfold ofDigits?
  split
  · exact ⟨fun same => by rw [← Option.some.inj same], fun same => by subst same; rfl⟩
  · next size =>
    constructor
    · intro same
      cases same
    · exact fun same => absurd (same ▸ id.size) size

/-- Digits spell an identifier if in lower case they are its own. -/
theorem simple?_eq_some_iff : simple? cs = some id ↔ lower cs = id.digits.map hexChar := by
  unfold simple?
  rw [Option.bind_eq_some_iff]
  constructor
  · rintro ⟨digits, read, same⟩
    rw [← ofDigits?_eq_some_iff.mp same]
    exact hexDigits?_eq_some_iff.mp read
  · intro same
    exact ⟨id.digits, hexDigits?_eq_some_iff.mpr same, ofDigits?_digits id⟩

/-- Five groups of the right sizes are cut out of their digits again. -/
theorem groups_eq {groups : List (List Char)} {digits : List Char}
    (sizes : groups.map List.length = groupSizes) (whole : groups.flatten = digits) :
    groups = [digits.take 8, (digits.drop 8).take 4, (digits.drop 12).take 4, (digits.drop 16).take 4,
      digits.drop 20] := by
  simp only [groupSizes, List.map_eq_cons_iff, List.map_eq_nil_iff] at sizes
  obtain ⟨a, _, rfl, eight, b, _, rfl, four, c, _, rfl, four', d, _, rfl, four'', e, _, rfl, -, rfl⟩ :=
    sizes
  replace whole : digits = a ++ (b ++ (c ++ (d ++ e))) := by simp [← whole]
  have second : digits.drop 8 = b ++ (c ++ (d ++ e)) := whole ▸ List.drop_left' eight
  have third : digits.drop 12 = c ++ (d ++ e) := by
    rw [show 12 = 8 + 4 from rfl, ← List.drop_drop, second, List.drop_left' four]
  have fourth : digits.drop 16 = d ++ e := by
    rw [show 16 = 12 + 4 from rfl, ← List.drop_drop, third, List.drop_left' four']
  have fifth : digits.drop 20 = e := by
    rw [show 20 = 16 + 4 from rfl, ← List.drop_drop, fourth, List.drop_left' four'']
  rw [second, third, fourth, fifth, List.take_left' four, List.take_left' four', List.take_left' four'',
    whole, List.take_left' eight]

/-- The case of the letters in groups does not matter. -/
theorem hyphenated?_lower (cs : List Char) : hyphenated? (lower cs) = hyphenated? cs := by
  have sizes : ((pieces '-' cs).map lower).map List.length = (pieces '-' cs).map List.length := by
    rw [List.map_map]
    exact List.map_congr_left fun piece _ => List.length_map _
  have digits : ∀ digits, simple? (lower digits) = simple? digits := by
    intro digits
    ext id
    rw [simple?_eq_some_iff, simple?_eq_some_iff, lower_lower]
  simp only [hyphenated?, pieces_lower (rfl : '-'.isAlpha = false), sizes, flatten_map_lower, digits]

/-- A text in groups spells an identifier if in lower case it is its hyphenated form. -/
theorem hyphenated?_eq_some_iff : hyphenated? cs = some id ↔ lower cs = id.chars := by
  constructor
  · intro read
    rw [← hyphenated?_lower] at read
    simp only [hyphenated?] at read
    split at read
    · next sizes =>
      have digits : (pieces '-' (lower cs)).flatten = id.digits.map hexChar := by
        rw [← simple?_eq_some_iff.mp read, pieces_lower (rfl : '-'.isAlpha = false), flatten_map_lower,
          lower_lower]
      rw [← intercalate_pieces '-' (lower cs), groups_eq sizes digits]
      simp [List.intercalate, List.intersperse, chars]
    · cases read
  · intro same
    rw [← hyphenated?_lower, same, hyphenated?_chars]

/-! ### Wrappings -/

/-- What braces stand around is taken out of them. -/
theorem unwrap?_braced (same : lower cs = '\x7b' :: (id.chars ++ ['\x7d'])) :
    unwrap? cs = some cs.tail.dropLast ∧ lower cs.tail.dropLast = id.chars := by
  have inner : lower cs.tail.dropLast = id.chars := by
    rw [lower, List.map_dropLast, List.map_tail]
    show (lower cs).tail.dropLast = id.chars
    rw [same, List.tail_cons, List.dropLast_concat]
  have size : Utf8.size cs = 38 := by
    rw [← size_lower, same, Utf8.size, size_append, size_chars]
    rfl
  have first : cs.head? = some '\x7b' := by
    have head : (lower cs).head? = some '\x7b' := by rw [same]; rfl
    rw [lower, List.head?_map, Option.map_eq_some_iff] at head
    obtain ⟨c, found, lowered⟩ := head
    rw [found, (toLower_eq_iff (by decide)).mp lowered]
  have last : cs.getLast? = some '\x7d' := by
    have final : (lower cs).getLast? = some '\x7d' := by
      rw [same, ← List.cons_append, List.getLast?_concat]
    rw [lower, List.getLast?_map, Option.map_eq_some_iff] at final
    obtain ⟨c, found, lowered⟩ := final
    rw [found, (toLower_eq_iff (by decide)).mp lowered]
  exact ⟨if_pos ⟨size, first, last⟩, inner⟩

/-- What follows the beginning of a resource name is taken out of it. -/
theorem unwrap?_resource (same : lower cs = "urn:uuid:".toList ++ id.chars) :
    unwrap? cs = some (cs.drop 9) ∧ lower (cs.drop 9) = id.chars := by
  have size : Utf8.size cs = 45 := by
    rw [← size_lower, same, size_append, size_chars]
    decide
  have beginning : lower (cs.take 9) = urn := by
    rw [lower, List.map_take]
    show (lower cs).take 9 = urn
    rw [same]
    rfl
  have inner : lower (cs.drop 9) = id.chars := by
    rw [lower, List.map_drop]
    show (lower cs).drop 9 = id.chars
    rw [same]
    rfl
  refine ⟨?_, inner⟩
  rw [unwrap?, if_neg (by omega), if_pos ⟨size, beginning⟩]

/-- What is taken out of a text of the right size has braces around it, or stands behind the beginning
of a resource name. -/
theorem wrapped_of_unwrap? (found : unwrap? cs = some inner) :
    cs = '\x7b' :: (inner ++ ['\x7d']) ∨ lower cs = "urn:uuid:".toList ++ lower inner := by
  unfold unwrap? at found
  split at found
  · next braces =>
    obtain ⟨_, first, last⟩ := braces
    obtain rfl := Option.some.inj found
    obtain ⟨rest, rfl⟩ : ∃ rest, cs = '\x7b' :: rest := List.head?_eq_some_iff.mp first
    obtain ⟨front, whole⟩ := List.getLast?_eq_some_iff.mp last
    cases front with
    | nil => cases whole
    | cons c front =>
      have inside : rest = front ++ ['\x7d'] := (List.cons.inj whole).2
      subst inside
      exact .inl (by rw [List.tail_cons, List.dropLast_concat])
  · split at found
    · next name =>
      obtain rfl := Option.some.inj found
      have beginning : lower (cs.take 9) = urn := name.2
      right
      calc lower cs = lower (cs.take 9 ++ cs.drop 9) := by rw [List.take_append_drop]
        _ = lower (cs.take 9) ++ lower (cs.drop 9) := List.map_append
        _ = "urn:uuid:".toList ++ lower (cs.drop 9) := by rw [beginning]; rfl
    · cases found

/-! ### Reading -/

/-- A text with a hyphen is not made of digits alone. -/
theorem simple?_eq_none (hyphened : '-' ∈ lower cs) : simple? cs = none := by
  cases read : simple? cs with
  | none => rfl
  | some other =>
    rw [simple?_eq_some_iff.mp read] at hyphened
    exact absurd hyphened (hyphen_notMem other.digits)

/-- Reading looks for digits first, and then for groups, in what may be wrapped. -/
theorem read_eq_ok_iff_or : read cs = .ok id ↔
    simple? cs = some id ∨ simple? cs = none ∧ hyphenated? ((unwrap? cs).getD cs) = some id := by
  have choice : (simple? cs <|> hyphenated? ((unwrap? cs).getD cs)) = some id ↔
      simple? cs = some id ∨ simple? cs = none ∧ hyphenated? ((unwrap? cs).getD cs) = some id := by
    cases simple? cs <;> simp
  rw [← choice]
  unfold read
  dsimp only
  cases (simple? cs <|> hyphenated? ((unwrap? cs).getD cs)) with
  | some found => exact ⟨fun same => by rw [Except.ok.inj same], fun same => by rw [Option.some.inj same]⟩
  | none =>
    refine ⟨fun same => ?_, nofun⟩
    dsimp only at same
    split at same <;> cases same

/-- **What is read as an identifier is one of its spellings, and all of them are.** -/
theorem read_eq_ok_iff : read cs = .ok id ↔ id.Spelling cs := by
  rw [read_eq_ok_iff_or]
  constructor
  · rintro (digits | ⟨-, groups⟩)
    · exact .plain (simple?_eq_some_iff.mp digits)
    · rw [hyphenated?_eq_some_iff] at groups
      cases wrapped : unwrap? cs with
      | none =>
        rw [wrapped] at groups
        exact .hyphenated groups
      | some inner =>
        rw [wrapped] at groups
        rcases wrapped_of_unwrap? wrapped with rfl | named
        · refine .braced ?_
          rw [← groups]
          show '\x7b'.toLower :: lower (inner ++ ['\x7d']) = _
          rw [lower, List.map_append]
          rfl
        · exact .resource (named.trans (congrArg _ groups))
  · rintro (same | same | same | same)
    · exact .inl (simple?_eq_some_iff.mpr same)
    · have bare : unwrap? cs = none := by
        have size : Utf8.size cs = 36 := by rw [← size_lower, same, size_chars]
        rw [unwrap?, if_neg (by omega), if_neg (by omega)]
      refine .inr ⟨simple?_eq_none (same ▸ hyphen_mem_chars id), ?_⟩
      rw [bare]
      exact hyphenated?_eq_some_iff.mpr same
    · obtain ⟨wrapped, inner⟩ := unwrap?_braced same
      refine .inr ⟨simple?_eq_none ?_, ?_⟩
      · rw [same]
        exact List.mem_cons_of_mem _ (List.mem_append_left _ (hyphen_mem_chars id))
      · rw [wrapped]
        exact hyphenated?_eq_some_iff.mpr inner
    · obtain ⟨wrapped, inner⟩ := unwrap?_resource same
      refine .inr ⟨simple?_eq_none ?_, ?_⟩
      · rw [same]
        exact List.mem_append_right _ (hyphen_mem_chars id)
      · rw [wrapped]
        exact hyphenated?_eq_some_iff.mpr inner

/-! ### White space -/

/-- The hyphenated form is made of hyphens and digits. -/
theorem eq_hyphen_or_mem_of_mem_chars {c : Char} (member : c ∈ id.chars) :
    c = '-' ∨ c ∈ id.digits.map hexChar := by
  simp only [chars, List.mem_append, List.mem_cons] at member
  rcases member with group | rfl | group | rfl | group | rfl | group | rfl | group
  · exact .inr (List.mem_of_mem_take group)
  · exact .inl rfl
  · exact .inr (List.mem_of_mem_drop (List.mem_of_mem_take group))
  · exact .inl rfl
  · exact .inr (List.mem_of_mem_drop (List.mem_of_mem_take group))
  · exact .inl rfl
  · exact .inr (List.mem_of_mem_drop (List.mem_of_mem_take group))
  · exact .inl rfl
  · exact .inr (List.mem_of_mem_drop group)

/-- There is no white space in a spelling. -/
theorem Spelling.visible (spelling : id.Spelling cs) : Visible cs := by
  have digits : Visible (id.digits.map hexChar) := by
    have all : ∀ digit : Fin 16, isSpace (hexChar digit) = false := by decide
    intro c member
    obtain ⟨digit, -, rfl⟩ := List.mem_map.mp member
    exact all digit
  have form : Visible id.chars := by
    intro c member
    rcases eq_hyphen_or_mem_of_mem_chars member with rfl | digit
    · rfl
    · exact digits c digit
  have name : Visible "urn:uuid:".toList := by
    intro c member
    have letters : "urn:uuid:".toList.all (fun c => !isSpace c) = true := by decide +kernel
    simpa using List.all_eq_true.mp letters c member
  have lowered : Visible (lower cs) := by
    rcases spelling with same | same | same | same
    · exact same ▸ digits
    · exact same ▸ form
    · rw [same]
      refine List.forall_mem_cons.mpr ⟨rfl, List.forall_mem_append.mpr ⟨form, ?_⟩⟩
      exact List.forall_mem_singleton.mpr rfl
    · rw [same]
      exact List.forall_mem_append.mpr ⟨name, form⟩
  intro c member
  rw [← isSpace_toLower]
  exact lowered _ (List.mem_map_of_mem member)

/-- Trimming leaves a spelling as it is. -/
theorem Spelling.trim_eq (spelling : id.Spelling cs) : trim cs = cs :=
  trim_of_padded (.refl cs) spelling.visible.tight

end Uuid

end Storefront
