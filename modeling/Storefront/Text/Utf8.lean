/-
**UTF-8.**

Bytes are read as *symbols*: a symbol is a character, or `none` where bytes belong to no character.
A maximal run of bytes that could have begun a character and did not finish one counts as one such
symbol, so the count of replacement characters in `lossy` is the one that Unicode recommends.

* `symbols` reads a list of bytes, one byte at a time;
* `text?` is the text if all of it is well formed, `lossy` always is one;
* `bytes` is the encoding of a text.

Main statement: `ofText_text?` — the symbols of a text read back as that text.
-/

namespace Storefront.Text

/-- A character, or `none` for bytes that belong to no character. -/
abbrev Symbol := Option Char

namespace Symbol

/-- The symbols of a text: its characters. -/
def ofText (s : String) : List Symbol := s.toList.map some

/-- The characters that the symbols are, if each of them is one. -/
def chars? : List Symbol → Option (List Char)
  | [] => some []
  | none :: _ => none
  | some c :: rest => (chars? rest).map (c :: ·)

/-- The text that the symbols spell, if each of them is a character. -/
def text? (symbols : List Symbol) : Option String := (chars? symbols).map String.ofList

/-- The text with a replacement character for each symbol that is none. -/
def lossy (symbols : List Symbol) : String :=
  String.ofList (symbols.map fun symbol => symbol.getD '\uFFFD')

theorem chars?_map_some (cs : List Char) : chars? (cs.map some) = some cs := by
  induction cs with
  | nil => rfl
  | cons c rest ih => simp [chars?, ih]

theorem ofText_text? (s : String) : text? (ofText s) = some s := by
  simp [text?, ofText, chars?_map_some]

end Symbol

namespace Utf8

/-- The beginning of a character of several bytes: how many bytes are still to come, between which
bounds the next one lies, and the bits collected so far. -/
structure Unfinished where
  missing : Nat
  lowest : Nat
  highest : Nat
  value : Nat

/-- What the first byte of a character announces. -/
def start (byte : Nat) : Symbol ⊕ Unfinished :=
  if byte < 0x80 then .inl (some (Char.ofNat byte))
  else if byte < 0xC2 then .inl none
  else if byte < 0xE0 then .inr ⟨1, 0x80, 0xBF, byte - 0xC0⟩
  else if byte < 0xF0 then
    .inr ⟨2, if byte = 0xE0 then 0xA0 else 0x80, if byte = 0xED then 0x9F else 0xBF, byte - 0xE0⟩
  else if byte < 0xF5 then
    .inr ⟨3, if byte = 0xF0 then 0x90 else 0x80, if byte = 0xF4 then 0x8F else 0xBF, byte - 0xF0⟩
  else .inl none

/-- Symbols found so far, newest first, and a character that has begun. -/
structure Progress where
  found : List Symbol
  unfinished : Option Unfinished

/-- One byte where a character may begin. -/
def Progress.begin (found : List Symbol) (byte : Nat) : Progress :=
  match start byte with
  | .inl symbol => ⟨symbol :: found, none⟩
  | .inr unfinished => ⟨found, some unfinished⟩

/-- One byte more. A byte that does not continue the character begun ends it as no character and is
then read as a first byte. -/
def Progress.feed (progress : Progress) (byte : UInt8) : Progress :=
  match progress.unfinished with
  | none => .begin progress.found byte.toNat
  | some part =>
    if part.lowest ≤ byte.toNat ∧ byte.toNat ≤ part.highest then
      let value := part.value * 64 + (byte.toNat - 0x80)
      if part.missing ≤ 1 then ⟨some (Char.ofNat value) :: progress.found, none⟩
      else ⟨progress.found, some ⟨part.missing - 1, 0x80, 0xBF, value⟩⟩
    else .begin (none :: progress.found) byte.toNat

/-- All symbols, in order. A character that never ended is one symbol. -/
def Progress.finish (progress : Progress) : List Symbol :=
  match progress.unfinished with
  | none => progress.found.reverse
  | some _ => (none :: progress.found).reverse

/-- The symbols that bytes spell. -/
def symbols (bytes : List UInt8) : List Symbol :=
  (bytes.foldl Progress.feed ⟨[], none⟩).finish

/-- The bytes of a text. -/
def bytes (s : String) : List UInt8 := s.toUTF8.data.toList

/-- The number of bytes of a list of characters. -/
def size : List Char → Nat
  | [] => 0
  | c :: rest => c.utf8Size + size rest

end Utf8

end Storefront.Text
