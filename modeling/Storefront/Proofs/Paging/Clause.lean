/-
**What a text means as a sort.**

Pieces of a text stand for the entries of an `ORDER BY` list one by one (`SortPiece`): each entry is
an allowed name and a direction (`ClauseEntry`).  A piece that has another shape stands for none.

Main statements:

* `mapM_eq_ok_iff`, `mapM_eq_error_iff`: what becomes of a list that is read element by element;
* `SortOrder.readEntry_ok_iff`: which pieces are read, and as which keys;
* `SortOrder.forall₂_sortPiece_iff`: pieces stand for entries exactly if they are read as keys with
  allowed properties, whose texts the entries are;
* `SortOrder.orderText_terms`: the clause of a sort is the list of the texts of its keys.
-/

import Mathlib.Data.List.Forall2
import Mathlib.Data.List.TakeWhile
import Storefront.Item.Store
import Storefront.Paging.PageQuery

namespace Storefront

open Storefront.Text

/-! ### Lists -/

section Lists

variable {α β ε : Type} {read : α → Except ε β} {given : List α}

/-- All of a list is read if each element is. -/
theorem mapM_eq_ok_iff {found : List β} :
    given.mapM read = .ok found ↔
      List.Forall₂ (fun element result => read element = .ok result) given found := by
  induction given generalizing found with
  | nil => cases found <;> simp [pure, Except.pure]
  | cons element rest ih =>
    rw [List.mapM_cons]
    cases first : read element with
    | error cause => cases found <;> simp [bind, Except.bind, first]
    | ok result =>
      cases others : rest.mapM read with
      | error cause => cases found <;> simp [bind, Except.bind, first, ← ih, others]
      | ok results => cases found <;> simp [bind, Except.bind, pure, Except.pure, first, ← ih, others]

/-- The first element that is refused decides. -/
theorem mapM_eq_error_iff {cause : ε} :
    given.mapM read = .error cause ↔ ∃ before element after, given = before ++ element :: after ∧
      (∀ earlier ∈ before, ∃ result, read earlier = .ok result) ∧ read element = .error cause := by
  induction given with
  | nil => simp [pure, Except.pure]
  | cons element rest ih =>
    rw [List.mapM_cons]
    constructor
    · intro refused
      cases first : read element with
      | error other =>
        rw [first] at refused
        cases refused
        exact ⟨[], element, rest, rfl, List.forall_mem_nil _, first⟩
      | ok result =>
        cases others : rest.mapM read with
        | ok results => rw [first, others] at refused; cases refused
        | error other =>
          rw [first, others] at refused
          cases refused
          obtain ⟨before, later, after, rfl, passed, refuses⟩ := ih.mp others
          exact ⟨element :: before, later, after, rfl,
            List.forall_mem_cons.mpr ⟨⟨result, first⟩, passed⟩, refuses⟩
    · rintro ⟨before, later, after, split, passed, refuses⟩
      cases before with
      | nil =>
        obtain ⟨rfl, rfl⟩ := List.cons.inj split
        rw [refuses]
        rfl
      | cons earlier before =>
        obtain ⟨rfl, rfl⟩ := List.cons.inj split
        obtain ⟨⟨result, first⟩, passed⟩ := List.forall_mem_cons.mp passed
        rw [first, ih.mpr ⟨before, later, after, rfl, passed, refuses⟩]
        rfl

end Lists

/-! ### Entries -/

/-- The six ways in which directions are written. -/
def Direction.texts : List String :=
  ["ASC", "DESC", "ASC NULLS FIRST", "DESC NULLS FIRST", "ASC NULLS LAST", "DESC NULLS LAST"]

theorem Direction.text_mem_texts (direction : Direction) : direction.text ∈ texts := by
  have every : ∀ direction ∈ all, direction.text ∈ texts := by decide +kernel
  exact every direction direction.mem_all

/-- An entry of an `ORDER BY` list: an allowed name and a direction. -/
def ClauseEntry (names : List String) (entry : String) : Prop :=
  ∃ name ∈ names, ∃ direction ∈ Direction.texts, entry = name ++ " " ++ direction

/-- The clause of a list of entries. -/
def orderClause : List String → String
  | [] => ""
  | entries => " ORDER BY " ++ String.intercalate ", " entries

/-- A piece of a text stands for an entry: a name alone for its ascending order, a name before a
white space character and the words of a direction, in either case, for that direction. -/
def SortPiece (names : List String) (piece : List Char) (entry : String) : Prop :=
  ∃ name ∈ names, ∃ direction : Direction, entry = name ++ " " ++ direction.text ∧
    (piece = name.toList ∧ direction = {} ∨
      ∃ space rest, isSpace space = true ∧ piece = name.toList ++ space :: rest ∧
        (words rest).map upper = direction.spelling.map String.toList)

/-! ### Directions -/

namespace Direction

theorem eq_of_spelling_eq {first second : Direction} (same : first.spelling = second.spelling) :
    first = second := by
  have every : ∀ first ∈ all, ∀ second ∈ all, first.spelling = second.spelling → first = second := by
    decide +kernel
  exact every first first.mem_all second second.mem_all same

theorem spelling_of_read? {cs : List Char} {direction : Direction}
    (found : read? cs = some direction) :
    direction.spelling.map String.toList = (words cs).map upper := by
  unfold read? at found
  dsimp only at found
  simpa using List.find?_some found

/-- A direction is read from its words in either case. -/
theorem read?_eq_some_iff {cs : List Char} {direction : Direction} :
    read? cs = some direction ↔ (words cs).map upper = direction.spelling.map String.toList := by
  constructor
  · exact fun found => (spelling_of_read? found).symm
  · intro spells
    cases found : read? cs with
    | none =>
      have other := List.find?_eq_none.mp found direction direction.mem_all
      exact absurd (decide_eq_true spells.symm) other
    | some first =>
      have injective : Function.Injective (List.map String.toList) :=
        List.map_injective_iff.mpr fun _ _ => String.toList_inj.mp
      have same := injective ((spelling_of_read? found).trans spells)
      rw [eq_of_spelling_eq same]

end Direction

/-! ### Reading -/

namespace SortOrder

theorem isSpace_of_word {c : Char} (word : (c.isAlphanum || c == '_') = true) :
    isSpace c = false := by
  have bounds : 0x30 ≤ c.toNat ∧ c.toNat ≤ 0x7A := by
    have value : c.toNat = c.val.toNat := rfl
    simp only [Bool.or_eq_true, beq_iff_eq] at word
    obtain letter | rfl := word
    · delta Char.isAlphanum Char.isAlpha Char.isUpper Char.isLower Char.isDigit at letter
      simp only [Bool.or_eq_true, Bool.and_eq_true, decide_eq_true_eq, UInt32.le_iff_toNat_le,
        ge_iff_le] at letter
      rcases letter with (h | h) | h <;> simp at h <;> omega
    · decide
  simp only [isSpace, Bool.or_eq_false_iff, Bool.and_eq_false_iff, decide_eq_false_iff_not,
    beq_eq_false_iff_ne]
  omega

/-- A property has no white space in it. -/
theorem spaceless_of_isIdentifier {cs : List Char} (identifier : isIdentifier cs = true) :
    ∀ c ∈ cs, isSpace c = false := by
  intro c member
  have every := (Bool.and_eq_true_iff.mp identifier).2
  exact isSpace_of_word (List.all_eq_true.mp every c member)

theorem splitEntry_of_spaceless {cs : List Char} (spaceless : ∀ c ∈ cs, isSpace c = false) :
    splitEntry cs = (cs, none) := by
  have wordOnly : (cs.dropWhile fun c => !isSpace c) = [] :=
    List.dropWhile_eq_nil_iff.mpr fun c member => by rw [spaceless c member]; rfl
  rw [splitEntry, wordOnly]

theorem splitEntry_append {property rest : List Char} {space : Char} (blank : isSpace space = true)
    (spaceless : ∀ c ∈ property, isSpace c = false) :
    splitEntry (property ++ space :: rest) = (property, some rest) := by
  have passes : ∀ c ∈ property, (!isSpace c) = true := fun c member => by rw [spaceless c member]; rfl
  have stops : (!isSpace space) = false := by rw [blank]; rfl
  unfold splitEntry
  rw [List.dropWhile_append_of_pos passes, List.takeWhile_append_of_pos passes]
  simp [stops]

/-- A text is split at its first white space character. -/
theorem splitEntry_cases (cs : List Char) :
    splitEntry cs = (cs, none) ∨
      ∃ property space rest, isSpace space = true ∧ cs = property ++ space :: rest ∧
        splitEntry cs = (property, some rest) := by
  cases dropped : cs.dropWhile fun c => !isSpace c with
  | nil => exact Or.inl (by rw [splitEntry, dropped])
  | cons space rest =>
    refine Or.inr ⟨_, space, rest, ?_, ?_, by rw [splitEntry, dropped]⟩
    · have first := head?_dropWhile (p := fun c => !isSpace c) cs space (by rw [dropped]; rfl)
      simpa using first
    · rw [← dropped]
      exact List.takeWhile_append_dropWhile.symm

theorem readDirection_ok_iff {cs : List Char} {direction : Direction} :
    readDirection cs = .ok direction ↔
      (words cs).map upper = direction.spelling.map String.toList := by
  rw [← Direction.read?_eq_some_iff, readDirection]
  cases Direction.read? cs <;> simp

/-- A piece is read as a key if it is a property alone, which is to ascend, or a property, a white
space character and the words of a direction. -/
theorem readEntry_ok_iff {piece : List Char} {key : SortKey} :
    readEntry piece = .ok key ↔ isIdentifier key.property.toList = true ∧
      (piece = key.property.toList ∧ key.direction = {} ∨
        ∃ space rest, isSpace space = true ∧ piece = key.property.toList ++ space :: rest ∧
          (words rest).map upper = key.direction.spelling.map String.toList) := by
  obtain ⟨property, direction⟩ := key
  constructor
  · intro read
    obtain alone | ⟨name, space, rest, blank, rfl, cut⟩ := splitEntry_cases piece
    · rw [readEntry, alone] at read
      simp only [bind, Except.bind, pure, Except.pure] at read
      split at read
      · next identifier =>
        cases read
        rw [String.toList_ofList]
        exact ⟨identifier, Or.inl ⟨rfl, rfl⟩⟩
      · cases read
    · rw [readEntry, cut] at read
      simp only [bind, Except.bind, pure, Except.pure] at read
      split at read
      · cases read
      · next way =>
        split at read
        · next identifier =>
          cases read
          rw [String.toList_ofList]
          exact ⟨identifier, Or.inr ⟨space, rest, blank, rfl, readDirection_ok_iff.mp way⟩⟩
        · cases read
  · rintro ⟨identifier, ⟨rfl, rfl⟩ | ⟨space, rest, blank, rfl, spells⟩⟩
    · have alone := splitEntry_of_spaceless (spaceless_of_isIdentifier identifier)
      simp [readEntry, alone, identifier, bind, Except.bind, pure, Except.pure]
    · have cut : splitEntry (property.toList ++ space :: rest) = _ :=
        splitEntry_append blank (spaceless_of_isIdentifier identifier)
      have way := readDirection_ok_iff.mpr spells
      simp [readEntry, cut, way, identifier, bind, Except.bind, pure, Except.pure]

theorem readEntries_eq_mapM (pieces : List (List Char)) :
    readEntries pieces = pieces.mapM readEntry := by
  induction pieces with
  | nil => rfl
  | cons piece rest ih => rw [readEntries, ih, List.mapM_cons]

/-- Pieces are read as keys one by one. -/
theorem readEntries_ok_iff {pieces : List (List Char)} {keys : List SortKey} :
    readEntries pieces = .ok keys ↔
      List.Forall₂ (fun piece key => readEntry piece = .ok key) pieces keys := by
  rw [readEntries_eq_mapM, mapM_eq_ok_iff]

/-- A piece stands for the text of the key as which it is read. -/
theorem sortPiece_iff {names : List String} (proper : ∀ name ∈ names, isIdentifier name.toList = true)
    {piece : List Char} {entry : String} :
    SortPiece names piece entry ↔
      ∃ key, readEntry piece = .ok key ∧ key.property ∈ names ∧ entry = key.text := by
  simp only [readEntry_ok_iff]
  constructor
  · rintro ⟨name, allowed, direction, rfl, shape⟩
    exact ⟨⟨name, direction⟩, ⟨proper name allowed, shape⟩, allowed, rfl⟩
  · rintro ⟨key, ⟨_, shape⟩, allowed, rfl⟩
    exact ⟨key.property, allowed, key.direction, rfl, shape⟩

/-- Pieces stand for entries exactly if they are read as keys with allowed properties, whose texts
the entries are. -/
theorem forall₂_sortPiece_iff {names : List String}
    (proper : ∀ name ∈ names, isIdentifier name.toList = true) {pieces : List (List Char)}
    {entries : List String} :
    List.Forall₂ (SortPiece names) pieces entries ↔
      ∃ keys, readEntries pieces = .ok keys ∧ (∀ key ∈ keys, key.property ∈ names) ∧
        entries = keys.map SortKey.text := by
  constructor
  · intro stand
    induction stand with
    | nil => exact ⟨[], rfl, nofun, rfl⟩
    | cons first others ih =>
      obtain ⟨key, read, allowed, rfl⟩ := (sortPiece_iff proper).mp first
      obtain ⟨keys, reads, within, rfl⟩ := ih
      refine ⟨key :: keys, ?_, List.forall_mem_cons.mpr ⟨allowed, within⟩, rfl⟩
      exact readEntries_ok_iff.mpr (.cons read (readEntries_ok_iff.mp reads))
  · rintro ⟨keys, reads, within, rfl⟩
    replace reads := readEntries_ok_iff.mp reads
    induction reads with
    | nil => exact .nil
    | cons read others ih =>
      obtain ⟨allowed, within⟩ := List.forall_mem_cons.mp within
      exact .cons ((sortPiece_iff proper).mpr ⟨_, read, allowed, rfl⟩) (ih within)

/-! ### Clauses -/

/-- A sort by allowed properties only passes. -/
theorem check_of_allowed {sort : SortOrder} {allowed : List String}
    (within : ∀ key ∈ sort.keys, key.property ∈ allowed) : sort.check allowed = .ok sort := by
  have passes : (sort.keys.find? fun key => !allowed.contains key.property) = none :=
    List.find?_eq_none.mpr fun key member => by simpa using within key member
  rw [check, passes]

/-- Any other sort is refused for its first property that is not allowed. -/
theorem check_of_first {sort : SortOrder} {allowed : List String} {key : SortKey}
    (first : (sort.keys.find? fun key => !allowed.contains key.property) = some key) :
    sort.check allowed = .error (.notAllowed key.property allowed) := by
  rw [check, first]

theorem clauseEntry_of_allowed {sort : SortOrder} {names : List String}
    (within : ∀ key ∈ sort.keys, key.property ∈ names) :
    ∀ entry ∈ sort.texts, ClauseEntry names entry := by
  intro entry member
  obtain ⟨key, own, rfl⟩ := List.mem_map.mp member
  exact ⟨key.property, within key own, key.direction.text, key.direction.text_mem_texts, rfl⟩

/-- The clause of a sort is the list of the texts of its keys. -/
theorem orderText_terms (sort : SortOrder) : orderText sort.terms = orderClause sort.texts := by
  obtain ⟨keys⟩ := sort
  cases keys with
  | nil => rfl
  | cons key rest =>
    have same : (terms ⟨key :: rest⟩).map OrderTerm.text = texts ⟨key :: rest⟩ := List.map_map
    rw [← same]
    rfl

end SortOrder

/-! ### Queries -/

/-- The pieces of the text of a sort: what stands between commas, trimmed, unless that is nothing. -/
def PageQuery.sortPieces (query : PageQuery) : List (List Char) :=
  match query.sort with
  | some raw => SortOrder.entryTexts raw.toList
  | none => []

theorem PageQuery.sortOrder_eq (query : PageQuery) :
    query.sortOrder = (SortOrder.readEntries query.sortPieces).map SortOrder.mk := by
  unfold sortOrder sortPieces
  cases query.sort <;> rfl

/-- The page that is asked for is sorted by the keys as which the pieces are read. -/
theorem PageQuery.request_eq (query : PageQuery) :
    query.request = (SortOrder.readEntries query.sortPieces).map fun keys =>
      .clamped (query.size.getD PageRequest.defaultSize) (query.offset.getD 0) ⟨keys⟩ := by
  rw [request, sortOrder_eq]
  cases SortOrder.readEntries query.sortPieces <;> rfl

end Storefront
