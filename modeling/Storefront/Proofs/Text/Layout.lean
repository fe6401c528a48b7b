/-
**How texts are laid out.**

A text with white space around it (`Padded`), words with white space before each of them (`Spaced`) and
parts with a separator between them (`Parted`): each relation says how a text is put together.  Reading
takes a text apart again, in the only way in which it can have been put together.

Main statements:

* `trim_eq_iff`: trimming leaves what has white space around it and neither begins nor ends with any;
* `mem_trim_iff`, `isBlank_trimmed`: what trimming keeps;
* `padded_intercalate`: white space around the whole belongs to the first and to the last part;
* `words_of_spaced`, `spaced_words`: the words are what white space stands before;
* `pieces_eq_iff`: the pieces are what separators stand between.
-/

import Mathlib.Data.List.Basic
import Mathlib.Data.List.TakeWhile
import Storefront.Text.Space

namespace Storefront.Text

/-- Nothing but white space, perhaps nothing at all. -/
def Blank (cs : List Char) : Prop := ∀ c ∈ cs, isSpace c = true

/-- No white space at all. -/
def Visible (cs : List Char) : Prop := ∀ c ∈ cs, isSpace c = false

/-- A text that neither begins nor ends with white space. -/
structure Tight (cs : List Char) : Prop where
  first : ∀ c ∈ cs.head?, isSpace c = false
  last : ∀ c ∈ cs.getLast?, isSpace c = false

/-- White space may stand before the inner text and behind it. -/
def Padded (inner cs : List Char) : Prop :=
  ∃ before after, Blank before ∧ Blank after ∧ cs = before ++ (inner ++ after)

/-- Words, each with white space before it. -/
inductive Spaced : List Char → List (List Char) → Prop
  | nil : Spaced [] []
  | cons {gap word rest : List Char} {others : List (List Char)} (apart : gap ≠ []) (blank : Blank gap)
      (filled : word ≠ []) (visible : Visible word) (spaced : Spaced rest others) :
      Spaced (gap ++ (word ++ rest)) (word :: others)

/-- Parts without the separator, which stands between them. -/
structure Parted (separator : Char) (parts : List (List Char)) (cs : List Char) : Prop where
  filled : parts ≠ []
  free : ∀ part ∈ parts, separator ∉ part
  whole : cs = [separator].intercalate parts

variable {cs gap word rest inner : List Char}

-- The list is gone through, not the type of characters.
instance : Decidable (Blank cs) := List.decidableBAll (fun c => isSpace c = true) cs

/-! ### White space -/

theorem blank_nil : Blank [] := nofun

theorem visible_nil : Visible [] := nofun

theorem dropWhile_eq_nil_of_blank (blank : Blank cs) : cs.dropWhile isSpace = [] :=
  List.dropWhile_eq_nil_iff.mpr blank

theorem blank_takeWhile (cs : List Char) : Blank (cs.takeWhile isSpace) :=
  fun _ member => List.mem_takeWhile_imp member

theorem visible_takeWhile (cs : List Char) : Visible (cs.takeWhile fun c => !isSpace c) := by
  intro c member
  simpa using List.mem_takeWhile_imp member

/-- A text without white space is tight. -/
theorem Visible.tight (visible : Visible cs) : Tight cs where
  first _ first := visible _ (List.mem_of_mem_head? first)
  last _ last := visible _ (List.mem_of_mem_getLast? last)

theorem Tight.nil : Tight [] := visible_nil.tight

theorem Tight.reverse (tight : Tight cs) : Tight cs.reverse where
  first := by rw [List.head?_reverse]; exact tight.last
  last := by rw [List.getLast?_reverse]; exact tight.first

/-- A text is tight if it begins with a tight one that is not empty and ends tightly. -/
theorem Tight.append (filled : word ≠ []) (tight : Tight word)
    (last : ∀ c ∈ rest.getLast?, isSpace c = false) : Tight (word ++ rest) where
  first c first := by
    rw [List.head?_append_of_ne_nil _ filled] at first
    exact tight.first c first
  last c final := by
    rw [List.getLast?_append] at final
    cases ends : rest.getLast? with
    | none => rw [ends] at final; exact tight.last c final
    | some other => rw [ends] at final; exact last c (ends.trans final)

/-- What is left when white space is taken away from the beginning does not begin with any. -/
theorem dropWhile_append_of_tight (blank : Blank gap) (first : ∀ c ∈ rest.head?, isSpace c = false) :
    (gap ++ rest).dropWhile isSpace = rest := by
  rw [List.dropWhile_append_of_pos blank, dropWhile_eq_self_of_head first]

/-! ### Trimming -/

theorem trim_of_padded (padded : Padded inner cs) (tight : Tight inner) : trim cs = inner := by
  obtain ⟨before, after, blank, blank', rfl⟩ := padded
  have reversed : Blank after.reverse := fun c member => blank' c (List.mem_reverse.mp member)
  have ending : trimEnd (inner ++ after) = inner := by
    rw [trimEnd, List.reverse_append, dropWhile_append_of_tight reversed tight.reverse.first,
      List.reverse_reverse]
  cases inner with
  | nil =>
    have blank : Blank (before ++ ([] ++ after)) := fun c member =>
      (List.mem_append.mp member).elim (blank c) (blank' c)
    rw [trim, dropWhile_eq_nil_of_blank blank]
    rfl
  | cons c inner =>
    have beginning : (before ++ (c :: inner ++ after)).dropWhile isSpace = c :: inner ++ after :=
      dropWhile_append_of_tight blank tight.first
    rw [trim, beginning, ending]

theorem padded_trim (cs : List Char) : Padded (trim cs) cs := by
  have split : ∀ cs : List Char, cs = trimEnd cs ++ (cs.reverse.takeWhile isSpace).reverse := by
    intro cs
    rw [trimEnd, ← List.reverse_append, List.takeWhile_append_dropWhile, List.reverse_reverse]
  refine ⟨cs.takeWhile isSpace, ((cs.dropWhile isSpace).reverse.takeWhile isSpace).reverse,
    blank_takeWhile cs, ?_, ?_⟩
  · exact fun c member => blank_takeWhile _ c (List.mem_reverse.mp member)
  · rw [trim, ← split, List.takeWhile_append_dropWhile]

theorem tight_trim (cs : List Char) : Tight (trim cs) where
  first c first := head?_dropWhile cs c (head?_trimEnd first)
  last c last := by
    rw [trim, trimEnd, List.getLast?_reverse] at last
    exact head?_dropWhile _ c last

/-- **Trimming leaves the tight text that white space stands around.** -/
theorem trim_eq_iff : trim cs = inner ↔ Padded inner cs ∧ Tight inner := by
  constructor
  · rintro rfl
    exact ⟨padded_trim cs, tight_trim cs⟩
  · exact fun ⟨padded, tight⟩ => trim_of_padded padded tight

/-- Nothing is left of a blank text. -/
theorem trim_eq_nil_iff : trim cs = [] ↔ Blank cs := by
  rw [trim_eq_iff]
  constructor
  · rintro ⟨⟨before, after, blank, blank', rfl⟩, -⟩ c member
    exact (List.mem_append.mp member).elim (blank c) (blank' c)
  · exact fun blank => ⟨⟨cs, [], blank, blank_nil, (List.append_nil cs).symm⟩, .nil⟩

theorem trim_cons_of_space {c : Char} (space : isSpace c = true) (cs : List Char) :
    trim (c :: cs) = trim cs := by
  rw [trim, List.dropWhile_cons_of_pos space, trim]

/-! ### What trimming keeps -/

theorem length_trim_le (cs : List Char) : (trim cs).length ≤ cs.length := by
  obtain ⟨before, after, -, -, whole⟩ := padded_trim cs
  have lengths := congrArg List.length whole
  simp only [List.length_append] at lengths
  omega

/-- Trimming loses spaces only. -/
theorem mem_trim_iff {c : Char} (visible : isSpace c = false) : c ∈ trim cs ↔ c ∈ cs := by
  have absent : ∀ {gap : List Char}, Blank gap → c ∉ gap := fun blank member =>
    absurd (blank c member) (ne_true_of_eq_false visible)
  obtain ⟨before, after, blank, blank', whole⟩ := padded_trim cs
  constructor
  · intro member
    rw [whole]
    exact List.mem_append_right _ (List.mem_append_left _ member)
  · intro member
    rw [whole, List.mem_append, List.mem_append] at member
    obtain outside | inside | outside := member
    · exact absurd outside (absent blank)
    · exact inside
    · exact absurd outside (absent blank')

theorem mem_trimmed_iff {c : Char} {text : String} (visible : isSpace c = false) :
    c ∈ (trimmed text).toList ↔ c ∈ text.toList := by
  rw [trimmed, String.toList_ofList, mem_trim_iff visible]

theorem trimmed_trimmed (text : String) : trimmed (trimmed text) = trimmed text := by
  rw [trimmed, trimmed, String.toList_ofList, trim_trim]

theorem length_trimmed_le (text : String) : (trimmed text).length ≤ text.length := by
  rw [trimmed, String.length_ofList, ← String.length_toList]
  exact length_trim_le _

/-- Trimming leaves something of a text exactly if it is not blank. -/
theorem isBlank_eq_false_iff (text : String) : isBlank text = false ↔ 0 < (trimmed text).length := by
  have blank : isBlank text = true ↔ Blank text.toList := List.all_eq_true
  rw [trimmed, String.length_ofList, List.length_pos_iff, ne_eq, trim_eq_nil_iff, ← blank,
    Bool.not_eq_true]

/-- A text is blank if what trimming leaves of it is. -/
theorem isBlank_trimmed (text : String) : isBlank (trimmed text) = isBlank text := by
  have same : isBlank (trimmed text) = false ↔ isBlank text = false := by
    rw [isBlank_eq_false_iff, isBlank_eq_false_iff, trimmed_trimmed]
  cases blank : isBlank text with
  | false => exact same.mpr blank
  | true =>
    rw [blank] at same
    exact eq_true_of_ne_false fun kept => Bool.noConfusion (same.mp kept)

/-! ### White space around a text -/

theorem Blank.append (blank : Blank gap) (blank' : Blank rest) : Blank (gap ++ rest) :=
  List.forall_mem_append.mpr ⟨blank, blank'⟩

theorem Padded.refl (cs : List Char) : Padded cs cs :=
  ⟨[], [], blank_nil, blank_nil, (List.append_nil cs).symm⟩

theorem Padded.before (blank : Blank gap) (padded : Padded inner cs) : Padded inner (gap ++ cs) := by
  obtain ⟨before, after, blank', blank'', rfl⟩ := padded
  exact ⟨gap ++ before, after, blank.append blank', blank'', (List.append_assoc ..).symm⟩

theorem Padded.after (blank : Blank gap) (padded : Padded inner cs) : Padded inner (cs ++ gap) := by
  obtain ⟨before, after, blank', blank'', rfl⟩ := padded
  exact ⟨before, after ++ gap, blank', blank''.append blank, by simp only [List.append_assoc]⟩

theorem Padded.trans (first : Padded inner rest) (second : Padded rest cs) : Padded inner cs := by
  obtain ⟨before, after, blank, blank', rfl⟩ := second
  exact (first.after blank').before blank

/-- White space around the whole stands before the first part and behind the last one. -/
theorem padded_intercalate {separator : List Char} {texts parts : List (List Char)} (filled : texts ≠ [])
    (pads : List.Forall₂ Padded texts parts) (padded : Padded (separator.intercalate parts) cs) :
    ∃ others, List.Forall₂ Padded texts others ∧ cs = separator.intercalate others := by
  induction pads generalizing cs with
  | nil => exact absurd rfl filled
  | @cons text part texts parts pad pads ih =>
    cases pads with
    | nil =>
      rw [List.intercalate_singleton] at padded
      exact ⟨[cs], .cons (pad.trans padded) .nil, List.intercalate_singleton.symm⟩
    | cons =>
      obtain ⟨before, after, blank, blank', rfl⟩ := padded
      obtain ⟨others, pads, whole⟩ := ih (List.cons_ne_nil _ _) ((Padded.refl _).after blank')
      have filled : others ≠ [] := by
        rintro rfl
        cases pads
      refine ⟨(before ++ part) :: others, .cons (pad.before blank) pads, ?_⟩
      rw [List.intercalate_cons_cons, List.intercalate_cons_of_ne_nil filled, ← whole]
      simp only [List.append_assoc]

/-! ### Words -/

theorem words_append_of_blank (blank : Blank gap) (cs : List Char) : words (gap ++ cs) = words cs := by
  induction gap with
  | nil => rfl
  | cons c gap ih =>
    rw [List.cons_append, words_cons_of_space (blank c List.mem_cons_self),
      ih fun other member => blank other (List.mem_cons_of_mem _ member)]

/-- Spaced words begin with white space. -/
theorem Spaced.first {found : List (List Char)} (spaced : Spaced cs found) :
    ∀ c ∈ cs.head?, isSpace c = true := by
  cases spaced with
  | nil => exact nofun
  | cons apart blank filled visible spaced =>
    intro c first
    rw [List.head?_append_of_ne_nil _ apart] at first
    exact blank c (List.mem_of_mem_head? first)

/-- They end with a word. -/
theorem Spaced.last {found : List (List Char)} (spaced : Spaced cs found) :
    ∀ c ∈ cs.getLast?, isSpace c = false := by
  induction spaced with
  | nil => exact nofun
  | @cons gap word rest others apart blank filled visible spaced ih =>
    have tight : Tight (word ++ rest) := .append filled visible.tight ih
    intro c last
    rw [List.getLast?_append_of_ne_nil _ (List.append_ne_nil_of_left_ne_nil filled rest)] at last
    exact tight.last c last

theorem words_of_spaced {found : List (List Char)} (spaced : Spaced cs found) : words cs = found := by
  induction spaced with
  | nil => rfl
  | cons apart blank filled visible spaced ih =>
    rw [words_append_of_blank blank, words_append filled visible spaced.first, ih]

/-- A text that begins with white space and ends with none has a first word. -/
theorem exists_first_word (filled : cs ≠ []) (first : ∀ c ∈ cs.head?, isSpace c = true)
    (last : ∀ c ∈ cs.getLast?, isSpace c = false) :
    ∃ gap word rest, cs = gap ++ (word ++ rest) ∧ gap ≠ [] ∧ Blank gap ∧ word ≠ [] ∧
      Visible word ∧ ∀ c ∈ rest.head?, isSpace c = true := by
  obtain ⟨after, found⟩ : ∃ after, cs.dropWhile isSpace = after := ⟨_, rfl⟩
  have whole : cs = cs.takeWhile isSpace ++ (after.takeWhile (fun c => !isSpace c) ++
      after.dropWhile fun c => !isSpace c) := by
    rw [List.takeWhile_append_dropWhile, ← found, List.takeWhile_append_dropWhile]
  refine ⟨_, _, _, whole, ?_, blank_takeWhile cs, ?_, visible_takeWhile after, ?_⟩
  · obtain ⟨c, rest, rfl⟩ := List.exists_cons_of_ne_nil filled
    rw [List.takeWhile_cons_of_pos (first c rfl)]
    exact List.cons_ne_nil _ _
  · intro empty
    have visibly : ∀ c ∈ after.head?, isSpace c = false := found ▸ head?_dropWhile cs
    cases after with
    | nil =>
      have final := List.getLast_mem_getLast? filled
      have blank := List.dropWhile_eq_nil_iff.mp found _ (List.mem_of_mem_getLast? final)
      exact absurd blank (ne_true_of_eq_false (last _ final))
    | cons c rest => simp [visibly c rfl] at empty
  · intro c head
    simpa using head?_dropWhile after c head

/-- A text that begins with white space and ends with none is made of its words. -/
theorem spaced_words (cs : List Char) (first : ∀ c ∈ cs.head?, isSpace c = true)
    (last : ∀ c ∈ cs.getLast?, isSpace c = false) : Spaced cs (words cs) := by
  by_cases empty : cs = []
  · rw [empty]
    exact .nil
  · obtain ⟨gap, word, rest, rfl, apart, blank, filled, visible, stops⟩ :=
      exists_first_word empty first last
    have ends : ∀ c ∈ rest.getLast?, isSpace c = false := by
      intro c final
      refine last c ?_
      rw [← List.append_assoc, List.getLast?_append, final]
      rfl
    -- The gap is not empty, so what is left is shorter.
    have shorter : rest.length < (gap ++ (word ++ rest)).length := by
      have := List.length_pos_of_ne_nil apart
      simp only [List.length_append]
      omega
    rw [words_append_of_blank blank, words_append filled visible stops]
    exact .cons apart blank filled visible (spaced_words rest stops ends)
termination_by cs.length

/-! ### Pieces -/

theorem pieces_ne_nil (separator : Char) (cs : List Char) : pieces separator cs ≠ [] := by
  cases cs with
  | nil => exact List.cons_ne_nil _ _
  | cons c rest =>
    rw [pieces]
    split
    · exact List.cons_ne_nil _ _
    · split <;> exact List.cons_ne_nil _ _

/-- The pieces of a text with the separator between them are the text. -/
theorem intercalate_pieces (separator : Char) (cs : List Char) :
    [separator].intercalate (pieces separator cs) = cs := by
  induction cs with
  | nil => rfl
  | cons c rest ih =>
    cases cut : pieces separator rest with
    | nil => exact absurd cut (pieces_ne_nil separator rest)
    | cons piece others =>
      rw [cut] at ih
      rw [pieces, cut]
      split
      · next same =>
        rw [same, ← ih]
        simp [List.intercalate, List.intersperse]
      · rw [← ih]
        cases others <;> simp [List.intercalate, List.intersperse]

/-- No piece has the separator in it. -/
theorem not_mem_pieces (separator : Char) (cs : List Char) :
    ∀ piece ∈ pieces separator cs, separator ∉ piece := by
  induction cs with
  | nil => simp [pieces]
  | cons c rest ih =>
    rw [pieces]
    split
    · exact List.forall_mem_cons.mpr ⟨List.not_mem_nil, ih⟩
    · next other =>
      cases cut : pieces separator rest with
      | nil => simpa using Ne.symm other
      | cons piece others =>
        rw [cut] at ih
        obtain ⟨absent, absents⟩ := List.forall_mem_cons.mp ih
        refine List.forall_mem_cons.mpr ⟨?_, absents⟩
        rw [List.mem_cons, not_or]
        exact ⟨Ne.symm other, absent⟩

/-- **The pieces are the parts between separators.** -/
theorem pieces_eq_iff {separator : Char} {parts : List (List Char)} :
    pieces separator cs = parts ↔ Parted separator parts cs := by
  constructor
  · rintro rfl
    exact ⟨pieces_ne_nil _ _, not_mem_pieces _ _, (intercalate_pieces _ _).symm⟩
  · rintro ⟨filled, free, rfl⟩
    exact pieces_intercalate filled free

end Storefront.Text
