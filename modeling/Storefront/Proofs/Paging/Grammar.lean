/-
**Which texts are sorts.**

A sort is written as parts between commas.  A part is blank and means nothing, or it means a key
(`SortOrder.Means`): white space around a property and perhaps the words of a direction, in either
case, with white space before each of them.  Any other part is at fault (`SortOrder.Faulty`), for the
text behind its first word before it is for that word.

Main statements:

* `SortOrder.readPart_ok_iff`, `SortOrder.readPart_error_iff`: what becomes of one part;
* `SortOrder.read_ok_iff`, `SortOrder.read_error_iff`: what becomes of a text;
* `SortOrder.read_outcome`: the texts that are sorts, what they mean, and what is reported of the others.
-/

import Mathlib.Data.List.ReduceOption
import Storefront.Proofs.Paging.Clause
import Storefront.Proofs.Text.Layout

namespace Storefront.SortOrder

open Storefront.Text

/-- A word of ASCII letters, digits and underscores. -/
structure Name (cs : List Char) : Prop where
  filled : cs ≠ []
  letters : ∀ c ∈ cs,
    'a' ≤ c ∧ c ≤ 'z' ∨ 'A' ≤ c ∧ c ≤ 'Z' ∨ '0' ≤ c ∧ c ≤ '9' ∨ c = '_'

/-- What may stand behind a property: nothing, which is to ascend, or the words of a direction in either
case, with white space before each of them. -/
inductive Directs : List Char → Direction → Prop
  | absent : Directs [] {}
  | words {tail : List Char} {found : List (List Char)} {direction : Direction}
      (spaced : Spaced tail found)
      (spells : found.map upper = direction.spelling.map String.toList) : Directs tail direction

/-- What a part between commas means: nothing or a key. -/
inductive Means : List Char → Option SortKey → Prop
  | nothing {part : List Char} (blank : Blank part) : Means part none
  | key {part property tail : List Char} {direction : Direction} (name : Name property)
      (directs : Directs tail direction) (padded : Padded (property ++ tail) part) :
      Means part (some ⟨String.ofList property, direction⟩)

/-- What is wrong with a part.  It begins with a word; what stands behind that is no direction, or it is
one and the word is no property. -/
inductive Faulty : List Char → SortError → Prop
  | direction {part word gap text : List Char} (filled : word ≠ []) (visible : Visible word)
      (apart : gap ≠ []) (blank : Blank gap) (given : text ≠ []) (tight : Tight text)
      (unknown : ∀ direction, ¬ Directs (gap ++ text) direction)
      (padded : Padded (word ++ (gap ++ text)) part) :
      Faulty part (.unknownDirection (String.ofList text))
  | property {part word tail : List Char} {direction : Direction} (filled : word ≠ [])
      (visible : Visible word) (invalid : ¬ Name word) (directs : Directs tail direction)
      (padded : Padded (word ++ tail) part) : Faulty part (.invalidProperty (String.ofList word))

variable {part property tail : List Char} {direction : Direction}

/-! ### Properties -/

theorem isIdentifier_iff {cs : List Char} : isIdentifier cs = true ↔ Name cs := by
  have letter : ∀ c : Char, (c.isAlphanum || c == '_') = true ↔
      'a' ≤ c ∧ c ≤ 'z' ∨ 'A' ≤ c ∧ c ≤ 'Z' ∨ '0' ≤ c ∧ c ≤ '9' ∨ c = '_' := by
    intro c
    delta Char.isAlphanum Char.isAlpha Char.isUpper Char.isLower Char.isDigit
    simp only [Bool.or_eq_true, Bool.and_eq_true, decide_eq_true_eq, beq_iff_eq, Char.le_def, ge_iff_le]
    tauto
  rw [isIdentifier, Bool.and_eq_true, List.all_eq_true, Bool.not_eq_true', List.isEmpty_eq_false_iff]
  simp only [letter]
  exact ⟨fun word => ⟨word.1, word.2⟩, fun name => ⟨name.filled, name.letters⟩⟩

theorem Name.visible (name : Name property) : Visible property :=
  spaceless_of_isIdentifier (isIdentifier_iff.mpr name)

/-! ### Directions behind a property -/

/-- The direction that is read behind a property. -/
def readTail : List Char → Except SortError Direction
  | [] => .ok {}
  | _ :: rest => readDirection rest

theorem Directs.first (directs : Directs tail direction) : ∀ c ∈ tail.head?, isSpace c = true := by
  cases directs with
  | absent => exact nofun
  | words spaced spells => exact spaced.first

theorem Directs.last (directs : Directs tail direction) : ∀ c ∈ tail.getLast?, isSpace c = false := by
  cases directs with
  | absent => exact nofun
  | words spaced spells => exact spaced.last

/-- Nothing behind a property is the direction to ascend. -/
theorem directs_nil_iff : Directs [] direction ↔ direction = {} := by
  constructor
  · intro directs
    generalize ending : ([] : List Char) = tail at directs
    cases directs with
    | absent => rfl
    | words spaced spells =>
      rw [← words_of_spaced spaced, ← ending] at spells
      have worded : ∀ direction ∈ Direction.all, [] ≠ direction.spelling.map String.toList := by
        decide +kernel
      exact absurd spells (worded _ direction.mem_all)
  · rintro rfl
    exact .absent

section Tails

variable (first : ∀ c ∈ tail.head?, isSpace c = true) (last : ∀ c ∈ tail.getLast?, isSpace c = false)

include first last

theorem readTail_ok_iff : readTail tail = .ok direction ↔ Directs tail direction := by
  cases tail with
  | nil =>
    rw [directs_nil_iff, readTail, Except.ok.injEq]
    exact eq_comm
  | cons space rest =>
    have same : words (space :: rest) = words rest := words_cons_of_space (first space rfl) rest
    rw [readTail, readDirection_ok_iff, ← same]
    constructor
    · exact fun spells => .words (spaced_words _ first last) spells
    · rintro ⟨⟩
      next found spaced spells => rw [words_of_spaced spaced, spells]

/-- If no direction is read, the text behind the property is reported. -/
theorem readTail_error_iff {cause : SortError} :
    readTail tail = .error cause ↔
      (∀ direction, ¬ Directs tail direction) ∧ cause = .unknownDirection (String.ofList (trim tail)) := by
  simp only [← readTail_ok_iff first last]
  cases tail with
  | nil => simp [readTail]
  | cons space rest =>
    rw [readTail, readDirection, trim_cons_of_space (first space rfl)]
    cases Direction.read? rest with
    | some direction => simp
    | none => simp [eq_comm]

end Tails

/-! ### Parts -/

/-- What becomes of one part. -/
def readPart (part : List Char) : Except SortError (Option SortKey) :=
  if trim part = [] then .ok none else (readEntry (trim part)).map some

theorem readPart_of_blank (blank : Blank part) : readPart part = .ok none :=
  if_pos (trim_eq_nil_iff.mpr blank)

/-- A part that is not blank is a word and what stands behind it. -/
theorem exists_word (filled : ¬ Blank part) :
    ∃ word tail, word ≠ [] ∧ Visible word ∧ (∀ c ∈ tail.head?, isSpace c = true) ∧
      (∀ c ∈ tail.getLast?, isSpace c = false) ∧ Padded (word ++ tail) part := by
  rw [← trim_eq_nil_iff] at filled
  have padded := padded_trim part
  have tight := tight_trim part
  generalize trim part = inner at filled padded tight
  have whole : inner = inner.takeWhile (fun c => !isSpace c) ++ inner.dropWhile fun c => !isSpace c :=
    List.takeWhile_append_dropWhile.symm
  refine ⟨_, _, ?_, visible_takeWhile inner, ?_, ?_, whole ▸ padded⟩
  · obtain ⟨c, rest, rfl⟩ := List.exists_cons_of_ne_nil filled
    simp [tight.first c rfl]
  · intro c first
    simpa using head?_dropWhile inner c first
  · intro c last
    exact tight.last c (whole ▸ List.mem_getLast?_append_of_mem_getLast? last)

section Parts

variable {word : List Char} (filled : word ≠ []) (visible : Visible word)
  (first : ∀ c ∈ tail.head?, isSpace c = true) (last : ∀ c ∈ tail.getLast?, isSpace c = false)
  (padded : Padded (word ++ tail) part)

include filled visible first last padded

/-- A word and what stands behind it are read one after the other, the direction first. -/
theorem readPart_of_padded :
    readPart part = match readTail tail with
      | .error cause => .error cause
      | .ok direction =>
        if isIdentifier word then .ok (some ⟨String.ofList word, direction⟩)
        else .error (.invalidProperty (String.ofList word)) := by
  have trims : trim part = word ++ tail := trim_of_padded padded (.append filled visible.tight last)
  have nonempty : word ++ tail ≠ [] := List.append_ne_nil_of_left_ne_nil filled tail
  rw [readPart, trims, if_neg nonempty, readEntry]
  cases tail with
  | nil =>
    rw [List.append_nil, splitEntry_of_spaceless visible, readTail]
    dsimp only [bind, Except.bind, pure, Except.pure]
    split <;> rfl
  | cons space rest =>
    rw [splitEntry_append (first space rfl) visible, readTail]
    dsimp only [bind, Except.bind, pure, Except.pure]
    cases readDirection rest with
    | error cause => rfl
    | ok direction =>
      dsimp only
      split <;> rfl

theorem readPart_eq_ok_iff {meaning : Option SortKey} :
    readPart part = .ok meaning ↔
      ∃ direction, Directs tail direction ∧ Name word ∧
        meaning = some ⟨String.ofList word, direction⟩ := by
  rw [readPart_of_padded filled visible first last padded]
  simp only [← readTail_ok_iff first last, ← isIdentifier_iff]
  cases readTail tail with
  | error cause => simp
  | ok direction => cases isIdentifier word <;> simp [eq_comm]

theorem readPart_eq_error_iff {cause : SortError} :
    readPart part = .error cause ↔
      ((∀ direction, ¬ Directs tail direction) ∧ cause = .unknownDirection (String.ofList (trim tail))) ∨
        (∃ direction, Directs tail direction) ∧ ¬ Name word ∧
          cause = .invalidProperty (String.ofList word) := by
  rw [readPart_of_padded filled visible first last padded, ← readTail_error_iff first last]
  simp only [← readTail_ok_iff first last, ← isIdentifier_iff]
  cases readTail tail with
  | error other => simp
  | ok direction => cases isIdentifier word <;> simp [eq_comm]

end Parts

/-- **A part is read as what it means.** -/
theorem readPart_ok_iff {meaning : Option SortKey} :
    readPart part = .ok meaning ↔ Means part meaning := by
  constructor
  · intro read
    by_cases blank : Blank part
    · rw [readPart_of_blank blank] at read
      cases read
      exact .nothing blank
    · obtain ⟨word, tail, filled, visible, first, last, padded⟩ := exists_word blank
      obtain ⟨direction, directs, name, rfl⟩ :=
        (readPart_eq_ok_iff filled visible first last padded).mp read
      exact .key name directs padded
  · rintro (blank | ⟨name, directs, padded⟩)
    · exact readPart_of_blank blank
    · exact (readPart_eq_ok_iff name.filled name.visible directs.first directs.last padded).mpr
        ⟨_, directs, name, rfl⟩

/-- **A part is refused for what is wrong with it.** -/
theorem readPart_error_iff {cause : SortError} : readPart part = .error cause ↔ Faulty part cause := by
  constructor
  · intro read
    -- A blank part is never refused, so there is a word and something may stand behind it.
    have filled : ¬ Blank part := fun blank => by
      rw [readPart_of_blank blank] at read
      cases read
    obtain ⟨word, tail, filled, visible, first, last, padded⟩ := exists_word filled
    obtain ⟨unknown, rfl⟩ | ⟨⟨direction, directs⟩, invalid, rfl⟩ :=
      (readPart_eq_error_iff filled visible first last padded).mp read
    · have given : tail ≠ [] := by
        rintro rfl
        exact unknown {} .absent
      obtain ⟨gap, text, rest, rfl, apart, blank, given, visible', stops⟩ :=
        exists_first_word given first last
      have tight : Tight (text ++ rest) := .append given visible'.tight fun c final => last c
        (List.mem_getLast?_append_of_mem_getLast? (List.mem_getLast?_append_of_mem_getLast? final))
      rw [trim_of_padded ⟨gap, [], blank, blank_nil, by rw [List.append_nil]⟩ tight]
      exact .direction filled visible apart blank (List.append_ne_nil_of_left_ne_nil given rest) tight
        unknown padded
    · exact .property filled visible invalid directs padded
  · rintro (⟨filled, visible, apart, blank, given, tight, unknown, padded⟩ |
      ⟨filled, visible, invalid, directs, padded⟩)
    · next word gap text =>
      have first : ∀ c ∈ (gap ++ text).head?, isSpace c = true := by
        intro c first
        rw [List.head?_append_of_ne_nil _ apart] at first
        exact blank c (List.mem_of_mem_head? first)
      have last : ∀ c ∈ (gap ++ text).getLast?, isSpace c = false := by
        rw [List.getLast?_append_of_ne_nil _ given]
        exact tight.last
      have trims : trim (gap ++ text) = text :=
        trim_of_padded ⟨gap, [], blank, blank_nil, by rw [List.append_nil]⟩ tight
      exact (readPart_eq_error_iff filled visible first last padded).mpr
        (Or.inl ⟨unknown, by rw [trims]⟩)
    · exact (readPart_eq_error_iff filled visible directs.first directs.last padded).mpr
        (Or.inr ⟨⟨_, directs⟩, invalid, rfl⟩)

/-! ### Texts -/

/-- Parts are read one by one; those that mean nothing are left out. -/
theorem readEntries_parts (parts : List (List Char)) :
    readEntries ((parts.map trim).filter fun entry => !entry.isEmpty) =
      (parts.mapM readPart).map List.reduceOption := by
  induction parts with
  | nil => rfl
  | cons part rest ih =>
    rw [List.map_cons, List.mapM_cons, readPart]
    by_cases blank : trim part = []
    · rw [if_pos blank, blank, List.filter_cons_of_neg (by simp), ih]
      cases rest.mapM readPart <;> rfl
    · rw [if_neg blank, List.filter_cons_of_pos (by simpa using blank), readEntries, ih]
      cases readEntry (trim part) with
      | error cause => rfl
      | ok key => cases rest.mapM readPart <;> rfl

theorem read_eq (raw : String) :
    read raw = ((pieces ',' raw.toList).mapM readPart).map fun meanings => ⟨meanings.reduceOption⟩ := by
  rw [read, entryTexts, readEntries_parts]
  cases (pieces ',' raw.toList).mapM readPart <;> rfl

/-- A text is read if each of its parts means something, as the keys that they mean. -/
theorem read_ok_iff {raw : String} {sort : SortOrder} :
    read raw = .ok sort ↔ ∃ parts meanings, Parted ',' parts raw.toList ∧
      List.Forall₂ Means parts meanings ∧ sort.keys = meanings.reduceOption := by
  have mean : ∀ parts meanings, List.Forall₂ Means parts meanings ↔
      parts.mapM readPart = .ok meanings := by
    intro parts meanings
    rw [mapM_eq_ok_iff]
    simp only [readPart_ok_iff]
  obtain ⟨keys⟩ := sort
  simp only [← pieces_eq_iff, mean, exists_and_left, exists_eq_left']
  rw [read_eq]
  cases (pieces ',' raw.toList).mapM readPart <;> simp [Except.map, eq_comm]

/-- It is refused for what is wrong with the first of its parts that means nothing at all. -/
theorem read_error_iff {raw : String} {cause : SortError} :
    read raw = .error cause ↔ ∃ before part after, Parted ',' (before ++ part :: after) raw.toList ∧
      (∀ earlier ∈ before, ∃ meaning, Means earlier meaning) ∧ Faulty part cause := by
  simp only [← pieces_eq_iff, ← readPart_ok_iff, ← readPart_error_iff, ← mapM_eq_error_iff]
  rw [read_eq]
  cases (pieces ',' raw.toList).mapM readPart <;> simp [Except.map]

/-- **The texts that are sorts, what they mean, and what is reported of the others.**  A text is a sort
if each of its parts means something, and its keys are what the parts mean, in their order.  Otherwise
the first part that means nothing is reported: for the text behind its first word if that is no
direction, and for its first word if it is one. -/
theorem read_outcome (raw : String) :
    (∀ sort, read raw = .ok sort ↔ ∃ parts meanings, Parted ',' parts raw.toList ∧
      List.Forall₂ Means parts meanings ∧ sort.keys = meanings.reduceOption) ∧
    (∀ cause, read raw = .error cause ↔ ∃ before part after,
      Parted ',' (before ++ part :: after) raw.toList ∧
      (∀ earlier ∈ before, ∃ meaning, Means earlier meaning) ∧ Faulty part cause) :=
  ⟨fun _ => read_ok_iff, fun _ => read_error_iff⟩

/-- A sort by two columns, and a text with two faults: the direction comes before the property. -/
theorem read_outcome_sample :
    (∃ parts meanings, Parted ',' parts "title\u00a0Desc ,, id".toList ∧
      List.Forall₂ Means parts meanings ∧
        [⟨"title", ⟨.descending, none⟩⟩, ⟨"id", {}⟩] = meanings.reduceOption) ∧
    ∃ before part after, Parted ',' (before ++ part :: after) "id,na-me up,-".toList ∧
      (∀ earlier ∈ before, ∃ meaning, Means earlier meaning) ∧ Faulty part (.unknownDirection "up") :=
  ⟨((read_outcome _).1 ⟨_⟩).mp (by decide +kernel), ((read_outcome _).2 _).mp (by decide +kernel)⟩

end Storefront.SortOrder
