/-
**Sorts are read back.**

The texts of the keys of a sort, between commas and with white space around them, are a text of the sort
(`SortOrder.Renders`).  Its clause is one of them.  Every text of a sort is read as the sort, whatever its
properties are called: a property is the first word of its part, so a column may have the name `asc`.

Main statements:

* `SortOrder.means_text`: a part with the text of a key means the key;
* `SortOrder.read_of_renders`: every text of a sort is read as the sort;
* `SortOrder.renders_clause`: the clause of a sort is one of its texts;
* `SortOrder.read_rendered`: what is written for a sort is read as the sort, and then written again.
-/

import Storefront.Proofs.Paging.Grammar

namespace Storefront.SortOrder

open Storefront.Text

/-- The texts of the keys between commas.  White space may stand around each of them and around the
whole. -/
def Renders (sort : SortOrder) (raw : String) : Prop :=
  ∃ parts, List.Forall₂ Padded (sort.texts.map String.toList) parts ∧
    Padded ([','].intercalate parts) raw.toList

/-- All properties of the sort are words of ASCII letters, digits and underscores. -/
def Named (sort : SortOrder) : Prop := ∀ key ∈ sort.keys, Name key.property.toList

/-- What is written for the sort is read as the sort, and then the same is written again. -/
structure ReadBack (sort : SortOrder) : Prop where
  /-- The clause, which is none for the natural order only. -/
  clause : ∀ allowed : List String, (∀ key ∈ sort.keys, key.property ∈ allowed) →
    ∃ clause, sort.orderBy allowed = .ok clause ∧ (clause = none ↔ sort = natural) ∧
      read (clause.getD "") = .ok sort ∧
        ((read (clause.getD "")).bind fun again => again.orderBy allowed) = .ok clause
  /-- The texts of the keys between commas. -/
  text : ∀ raw : String, sort.Renders raw →
    read raw = .ok sort ∧ (read raw).map texts = .ok sort.texts

variable {sort : SortOrder} {raw : String}

/-! ### Keys -/

/-- The text of a direction, behind a space, is the direction. -/
theorem directs_text (direction : Direction) : Directs (' ' :: direction.text.toList) direction := by
  have ends : ∀ direction ∈ Direction.all,
      (' ' :: direction.text.toList).getLast?.any isSpace = false := by
    decide +kernel
  refine (readTail_ok_iff ?_ ?_).mp ?_
  · rintro c ⟨⟩
    rfl
  · intro c last
    have visible := ends direction direction.mem_all
    rwa [last] at visible
  · rw [readTail, readDirection, Direction.read?_text]

theorem toList_text (key : SortKey) :
    key.text.toList = key.property.toList ++ ' ' :: key.direction.text.toList := by
  simp [SortKey.text]

/-- **A part with the text of a key means the key.** -/
theorem means_text {key : SortKey} {part : List Char} (name : Name key.property.toList)
    (padded : Padded key.text.toList part) : Means part (some key) := by
  rw [toList_text] at padded
  have means := Means.key name (directs_text key.direction) padded
  rwa [String.ofList_toList] at means

/-- No comma stands in the text of a key or in the white space around it. -/
theorem comma_not_mem {key : SortKey} {part : List Char} (name : Name key.property.toList)
    (padded : Padded key.text.toList part) : ',' ∉ part := by
  have spelled : ∀ direction ∈ Direction.all, ',' ∉ ' ' :: direction.text.toList := by decide +kernel
  have named : ',' ∉ key.property.toList := fun member => by
    have letter := name.letters ',' member
    revert letter
    decide
  have blank : ∀ {cs : List Char}, Blank cs → ',' ∉ cs := fun blank member =>
    absurd (blank ',' member) (by decide)
  obtain ⟨before, after, empty, empty', rfl⟩ := padded
  rw [toList_text]
  simp only [List.mem_append, not_or]
  exact ⟨blank empty, ⟨named, spelled _ key.direction.mem_all⟩, blank empty'⟩

/-! ### Texts -/

/-- Parts with the texts of keys mean the keys, and no comma stands in them. -/
theorem forall₂_means_text {keys : List SortKey} {parts : List (List Char)}
    (named : ∀ key ∈ keys, Name key.property.toList)
    (pads : List.Forall₂ Padded (keys.map fun key => key.text.toList) parts) :
    List.Forall₂ Means parts (keys.map some) ∧ ∀ part ∈ parts, ',' ∉ part := by
  induction keys generalizing parts with
  | nil =>
    cases pads
    exact ⟨.nil, List.forall_mem_nil _⟩
  | cons key rest ih =>
    obtain ⟨name, named⟩ := List.forall_mem_cons.mp named
    cases pads with
    | cons pad pads =>
      obtain ⟨means, free⟩ := ih named pads
      exact ⟨.cons (means_text name pad) means,
        List.forall_mem_cons.mpr ⟨comma_not_mem name pad, free⟩⟩

/-- Nothing but white space is the natural order. -/
theorem read_of_blank (blank : Blank raw.toList) : read raw = .ok natural := by
  refine read_ok_iff.mpr ⟨[raw.toList], [none], ⟨List.cons_ne_nil _ _, ?_, ?_⟩,
    .cons (.nothing blank) .nil, rfl⟩
  · exact List.forall_mem_singleton.mpr fun member => absurd (blank ',' member) (by decide)
  · exact List.intercalate_singleton.symm

/-- **Every text of a sort is read as the sort.** -/
theorem read_of_renders (named : sort.Named) (renders : sort.Renders raw) : read raw = .ok sort := by
  obtain ⟨keys⟩ := sort
  obtain ⟨parts, pads, padded⟩ := renders
  rw [texts, List.map_map] at pads
  cases keys with
  | nil =>
    cases pads
    exact read_of_blank (trim_eq_nil_iff.mp (trim_of_padded padded .nil))
  | cons key rest =>
    -- The white space around the whole belongs to the first and to the last part.
    obtain ⟨others, pads, whole⟩ := padded_intercalate (List.cons_ne_nil _ _) pads padded
    obtain ⟨means, free⟩ := forall₂_means_text named pads
    have filled : others ≠ [] := by
      rintro rfl
      cases pads
    refine read_ok_iff.mpr ⟨others, _, ⟨filled, free, whole⟩, means, ?_⟩
    simp [List.reduceOption]

/-- The properties of a sort that is read are words. -/
theorem named_of_read (reads : read raw = .ok sort) : sort.Named := by
  obtain ⟨parts, meanings, -, means, keys⟩ := read_ok_iff.mp reads
  have every : ∀ key, some key ∈ meanings → Name key.property.toList := by
    clear keys
    intro key member
    induction means with
    | nil => cases member
    | cons mean means ih =>
      obtain rfl | member := List.mem_cons.mp member
      · cases mean with
        | key name directs padded => rwa [String.toList_ofList]
      · exact ih member
  intro key member
  rw [keys, List.reduceOption_mem_iff] at member
  exact every key member

/-! ### Clauses -/

/-- The clause has a space behind each comma. -/
theorem intercalate_space (first : String) (rest : List String) :
    String.intercalate ", " (first :: rest) =
      String.intercalate "," (first :: rest.map fun text => " " ++ text) := by
  induction rest generalizing first with
  | nil => rfl
  | cons next rest ih =>
    have comma : ", " = "," ++ " " := rfl
    rw [String.intercalate_cons_cons, ih next, List.map_cons, String.intercalate_cons_cons,
      String.intercalate_cons_append, comma]
    simp only [String.append_assoc]

/-- **The clause of a sort is one of its texts.** -/
theorem renders_clause : sort.Renders (String.intercalate ", " sort.texts) := by
  cases given : sort.texts with
  | nil => exact ⟨[], given ▸ .nil, .refl _⟩
  | cons first rest =>
    have space : ∀ text : String, Padded text.toList (" " ++ text).toList := fun text => by
      rw [String.toList_append]
      exact (Padded.refl _).before (by decide)
    refine ⟨(first :: rest.map fun text => " " ++ text).map String.toList, ?_, ?_⟩
    · rw [given, List.map_cons, List.map_cons, List.map_map]
      refine .cons (.refl _) ?_
      rw [List.forall₂_map_left_iff, List.forall₂_map_right_iff, List.forall₂_same]
      exact fun text _ => space text
    · rw [intercalate_space, String.toList_intercalate]
      exact .refl _

/-- The clause of a sort by allowed properties; it is none for the natural order only. -/
theorem orderBy_of_allowed {allowed : List String}
    (within : ∀ key ∈ sort.keys, key.property ∈ allowed) :
    ∃ clause, sort.orderBy allowed = .ok clause ∧ (clause = none ↔ sort = natural) ∧
      clause.getD "" = String.intercalate ", " sort.texts := by
  have checked := check_of_allowed within
  obtain ⟨keys⟩ := sort
  refine ⟨_, by rw [orderBy, checked]; rfl, ?_⟩
  cases keys with
  | nil => exact ⟨Iff.intro (fun _ => rfl) (fun _ => rfl), rfl⟩
  | cons key rest => exact ⟨Iff.intro nofun nofun, rfl⟩

theorem readBack_of_named (named : sort.Named) : sort.ReadBack where
  clause allowed within := by
    obtain ⟨clause, written, natural_iff, text⟩ := orderBy_of_allowed within
    have reads : read (clause.getD "") = .ok sort := text ▸ read_of_renders named renders_clause
    exact ⟨clause, written, natural_iff, reads, by rw [reads]; exact written⟩
  text raw renders := by
    have reads := read_of_renders named renders
    exact ⟨reads, by rw [reads]; rfl⟩

/-- **Sorts and the texts that are read as them.**  A sort by words of ASCII letters, digits and
underscores is read back from its clause, under any list of names that are allowed, and from the texts of
its keys between commas.  So is every sort that is read from some text. -/
theorem read_rendered :
    (∀ sort : SortOrder, sort.Named → sort.ReadBack) ∧
      ∀ raw sort, read raw = .ok sort → sort.ReadBack :=
  ⟨fun _ => readBack_of_named, fun _ _ reads => readBack_of_named (named_of_read reads)⟩

/-- A sort by columns that are called like the words of directions, one of them twice. -/
def wordlike : SortOrder :=
  ⟨[⟨"asc", ⟨.descending, some .first⟩⟩, ⟨"nulls", {}⟩, ⟨"asc", ⟨.descending, none⟩⟩]⟩

theorem read_rendered_wordlike :
    wordlike.Named ∧ (∀ key ∈ wordlike.keys, key.property ∈ ["nulls", "asc"]) ∧
      wordlike.Renders "\tasc DESC NULLS FIRST ,\u2003nulls ASC,asc DESC\n" ∧
      read "asc\u00a0desc  nulls first,, nulls,asc DESC" = .ok wordlike ∧
      (∃ clause, wordlike.orderBy ["nulls", "asc"] = .ok clause ∧ read (clause.getD "") = .ok wordlike) ∧
      read "\tasc DESC NULLS FIRST ,\u2003nulls ASC,asc DESC\n" = .ok wordlike ∧ wordlike.ReadBack := by
  have words : ∀ key ∈ wordlike.keys, isIdentifier key.property.toList = true := by decide +kernel
  have named : wordlike.Named := fun key member => isIdentifier_iff.mp (words key member)
  have within : ∀ key ∈ wordlike.keys, key.property ∈ ["nulls", "asc"] := by decide
  have renders : wordlike.Renders "\tasc DESC NULLS FIRST ,\u2003nulls ASC,asc DESC\n" :=
    ⟨["asc DESC NULLS FIRST ".toList, "\u2003nulls ASC".toList, "asc DESC".toList],
      .cons ⟨[], [' '], by decide, by decide, by decide +kernel⟩
        (.cons ⟨['\u2003'], [], by decide, by decide, by decide +kernel⟩ (.cons (.refl _) .nil)),
      ['\t'], ['\n'], by decide, by decide, by decide +kernel⟩
  have reads : read "asc\u00a0desc  nulls first,, nulls,asc DESC" = .ok wordlike := by decide +kernel
  obtain ⟨clause, written, -, back, -⟩ := (read_rendered.1 wordlike named).clause _ within
  exact ⟨named, within, renders, reads, ⟨clause, written, back⟩,
    ((read_rendered.1 wordlike named).text _ renders).1, read_rendered.2 _ _ reads⟩

end Storefront.SortOrder
