/-
**Reading identifiers.**

An identifier may be spelled as thirty-two digits, in the hyphenated form, in the hyphenated form
between braces, or in the hyphenated form after `urn:uuid:`; digits and that beginning in either
case.  `Uuid.read` accepts exactly these spellings and otherwise says what is wrong with the text.

Lengths and indexes in an error count the bytes of the text.  Once every character of the part that
should hold the digits is a digit or a hyphen, bytes and characters are the same there.

Main statements:

* `hyphenated?_chars`: the printed form is a spelling of the identifier;
* `read_chars`: it reads back.
-/

import Storefront.Text.Space
import Storefront.Text.Utf8
import Storefront.Uuid.Basic

namespace Storefront.Uuid

open Storefront.Text

/-- What is wrong with a text that spells no identifier. -/
inductive ReadError
  /-- The text has an impossible number of bytes. -/
  | length (found : Nat)
  /-- A character is neither a digit nor a hyphen. -/
  | character (c : Char) (index : Nat)
  /-- Hyphens cut the text into another number of groups than five. -/
  | groupCount (found : Nat)
  /-- A group, counted from zero, has the wrong number of digits. -/
  | groupLength (group expected found : Nat)
deriving DecidableEq, Repr

/-- What is said of a text that spells no identifier. -/
def ReadError.message : ReadError → String
  | .length found => "invalid length: found " ++ toString found
  | .character c index =>
    "invalid character: found `" ++ String.ofList [c] ++ "` at " ++ toString index
  | .groupCount found => "invalid group count: expected 5, found " ++ toString found
  | .groupLength group expected found =>
    "invalid group length in group " ++ toString group ++ ": expected " ++ toString expected
      ++ ", found " ++ toString found

/-! ### Spellings -/

/-- The identifier that thirty-two digits spell. -/
def simple? (cs : List Char) : Option Uuid := (hexDigits? cs).bind ofDigits?

/-- The identifier that the hyphenated form spells. -/
def hyphenated? (cs : List Char) : Option Uuid :=
  let groups := pieces '-' cs
  if groups.map List.length = groupSizes then simple? groups.flatten else none

/-- The beginning of the form for resource names. -/
def urn : List Char := "urn:uuid:".toList

/-- The part of the text between braces or after the beginning of a resource name, if the text is
as long as such a form is. -/
def unwrap? (cs : List Char) : Option (List Char) :=
  if Utf8.size cs = 38 ∧ cs.head? = some '\x7b' ∧ cs.getLast? = some '\x7d' then
    some cs.tail.dropLast
  else if Utf8.size cs = 45 ∧ (cs.take 9).map Char.toLower = urn then some (cs.drop 9)
  else none

/-! ### Errors -/

/-- The first character that is neither a digit nor a hyphen, with the byte at which it stands when
the text begins at a given byte. -/
def badCharacter? (index : Nat) : List Char → Option (Char × Nat)
  | [] => none
  | c :: rest =>
    if (hexDigit? c).isSome || c = '-' then badCharacter? (index + c.utf8Size) rest
    else some (c, index)

/-- Where the hyphens are, counted in characters. -/
def hyphens (cs : List Char) : List Nat :=
  (cs.zipIdx.filter fun entry => entry.1 == '-').map Prod.snd

/-- The first of the four hyphens that does not stand at its place, as the error that it makes. -/
def badGroup? (found : List Nat) : Option ReadError :=
  ((found.zip [8, 13, 18, 23]).zipIdx.find? fun entry => entry.1.1 != entry.1.2).map fun entry =>
    .groupLength entry.2 ([8, 4, 4, 4].getD entry.2 0)
      (entry.1.1 - [0, 9, 14, 19].getD entry.2 0)

/-- Where the digits of a text should be: the part of it, the byte at which that part begins, and
whether it should have hyphens. -/
def body (cs : List Char) : List Char × Nat × Bool :=
  if Utf8.size cs = 36 then (cs, 0, true)
  else if 2 ≤ cs.length ∧ cs.head? = some '\x7b' ∧ cs.getLast? = some '\x7d' then
    (cs.tail.dropLast, 1, true)
  else if (cs.take 9).map Char.toLower = urn then (cs.drop 9, 9, true)
  else (cs, 0, cs.contains '-')

/-- What is wrong with a text that spells no identifier and is not too long. -/
def diagnose (cs : List Char) : ReadError :=
  let (part, start, hyphened) := body cs
  match badCharacter? start part with
  | some (c, index) => .character c index
  | none =>
    if hyphened then
      let found := hyphens part
      if found.length = 4 then
        (badGroup? found).getD (.groupLength 4 12 (Utf8.size cs - 24))
      else .groupCount (found.length + 1)
    else .length (Utf8.size cs)

/-- Reads any spelling of an identifier. -/
def read (cs : List Char) : Except ReadError Uuid :=
  let inner := (unwrap? cs).getD cs
  match simple? cs <|> hyphenated? inner with
  | some id => .ok id
  | none =>
    if cs.isEmpty || 45 < Utf8.size cs then .error (.length (Utf8.size cs))
    else .error (diagnose inner)

/-! ### The printed form reads back -/

theorem hexChar_ne_hyphen (digit : Fin 16) : hexChar digit ≠ '-' := by
  revert digit
  decide

theorem hexChar_utf8Size (digit : Fin 16) : (hexChar digit).utf8Size = 1 := by
  revert digit
  decide

theorem hyphen_notMem (digits : List (Fin 16)) : '-' ∉ digits.map hexChar := by
  simp only [List.mem_map, not_exists, not_and]
  exact fun digit _ => hexChar_ne_hyphen digit

/-- The groups of the printed form are runs of its digits. -/
theorem pieces_chars (id : Uuid) :
    pieces '-' id.chars =
      [(id.digits.take 8).map hexChar, ((id.digits.drop 8).take 4).map hexChar,
        ((id.digits.drop 12).take 4).map hexChar, ((id.digits.drop 16).take 4).map hexChar,
        (id.digits.drop 20).map hexChar] := by
  simp only [chars, ← List.map_drop, ← List.map_take]
  rw [pieces_append (hyphen_notMem _), pieces_append (hyphen_notMem _),
    pieces_append (hyphen_notMem _), pieces_append (hyphen_notMem _),
    pieces_of_absent (hyphen_notMem _)]

/-- The printed form is a spelling of the identifier. -/
theorem hyphenated?_chars (id : Uuid) : hyphenated? id.chars = some id := by
  have whole : (id.digits.take 8) ++ ((id.digits.drop 8).take 4 ++ ((id.digits.drop 12).take 4 ++
      ((id.digits.drop 16).take 4 ++ id.digits.drop 20))) = id.digits := by
    have last := List.take_append_drop 4 (id.digits.drop 16)
    have third := List.take_append_drop 4 (id.digits.drop 12)
    have second := List.take_append_drop 4 (id.digits.drop 8)
    have first := List.take_append_drop 8 id.digits
    simp only [List.drop_drop] at last third second
    rw [last, third, second, first]
  simp only [hyphenated?, pieces_chars, groupSizes, simple?]
  rw [if_pos (by simp [id.size])]
  simp only [List.flatten_cons, List.flatten_nil, List.append_nil, ← List.map_append, whole,
    hexDigits?_map_hexChar, Option.bind_some, ofDigits?_digits]

theorem hexDigits?_eq_none_of_mem {cs : List Char} {c : Char} (member : c ∈ cs)
    (noDigit : hexDigit? c = none) : hexDigits? cs = none := by
  induction cs with
  | nil => cases member
  | cons head rest ih =>
    rcases List.mem_cons.mp member with same | later
    · subst same
      simp [hexDigits?, noDigit]
    · simp [hexDigits?, ih later]

theorem hyphen_mem_chars (id : Uuid) : '-' ∈ id.chars := by
  simp [chars]

theorem size_map_hexChar (digits : List (Fin 16)) :
    Utf8.size (digits.map hexChar) = digits.length := by
  induction digits with
  | nil => rfl
  | cons digit rest ih =>
    rw [List.map_cons, Utf8.size, ih, hexChar_utf8Size, List.length_cons]
    omega

theorem size_append (first second : List Char) :
    Utf8.size (first ++ second) = Utf8.size first + Utf8.size second := by
  induction first with
  | nil => simp [Utf8.size]
  | cons c rest ih => simp only [List.cons_append, Utf8.size, ih]; omega

theorem size_chars (id : Uuid) : Utf8.size id.chars = 36 := by
  have hyphen : ∀ cs, Utf8.size ('-' :: cs) = 1 + Utf8.size cs := fun cs => rfl
  simp only [chars, ← List.map_drop, ← List.map_take, size_append, hyphen, size_map_hexChar,
    List.length_take, List.length_drop, id.size]
  rfl

theorem read_chars (id : Uuid) : read id.chars = .ok id := by
  have unwrapped : unwrap? id.chars = none := by simp [unwrap?, size_chars]
  have notSimple : simple? id.chars = none := by
    simp [simple?, hexDigits?_eq_none_of_mem (hyphen_mem_chars id) (by decide)]
  simp [read, unwrapped, notSimple, hyphenated?_chars]

end Storefront.Uuid
