/-
**String literals.**

The inside of a literal is a list of characters, some of them written as escapes.  `escape` writes
one, and `pieces` reads up to the closing quote.  What is read may still be no text: a byte sequence
may be ill formed, or half of a pair of sixteen-bit units may stand alone.  `assemble` decides that;
a literal whose text nobody needs is well formed all the same.

Main statements:

* `pieces_escape`: what `escape` writes is read up to its closing quote, character by character;
* `assemble_map_symbol`: characters assemble to themselves.
-/

import Storefront.Text.Hexadecimal
import Storefront.Text.Utf8

namespace Storefront.Json.Literal

open Storefront.Text

/-! ### Writing -/

/-- A character inside a literal. -/
def escapeChar (c : Char) : List Char :=
  if c = '"' then ['\\', '"']
  else if c = '\\' then ['\\', '\\']
  else if c = '\x08' then ['\\', 'b']
  else if c = '\x0c' then ['\\', 'f']
  else if c = '\n' then ['\\', 'n']
  else if c = '\r' then ['\\', 'r']
  else if c = '\t' then ['\\', 't']
  else if c.toNat < 0x20 then
    ['\\', 'u', '0', '0', hexChar (lowDigit (c.toNat / 16)), hexChar (lowDigit c.toNat)]
  else [c]

/-- The inside of a literal that spells the characters. -/
def escape (cs : List Char) : List Char := cs.flatMap escapeChar

/-- A literal with its quotes. -/
def chars (cs : List Char) : List Char := '"' :: (escape cs ++ ['"'])

/-! ### Reading -/

/-- A part of a literal: a symbol, or half of a pair of sixteen-bit units. -/
inductive Piece
  | symbol (symbol : Symbol)
  | half (unit : Nat)
deriving DecidableEq

/-- Is this the first unit of a pair? -/
def isLeading (unit : Nat) : Bool := 0xD800 ≤ unit && unit < 0xDC00

/-- Is this the second unit of a pair? -/
def isTrailing (unit : Nat) : Bool := 0xDC00 ≤ unit && unit < 0xE000

/-- The part that a unit is: a character, unless it belongs to a pair. -/
def Piece.ofUnit (unit : Nat) : Piece :=
  if isLeading unit || isTrailing unit then .half unit else .symbol (some (Char.ofNat unit))

/-- The unit that four hexadecimal digits spell. -/
def unit? : List Symbol → Option Nat
  | [some a, some b, some c, some d] =>
    (hexDigits? [a, b, c, d]).map fun digits => digits.foldl (fun n digit => n * 16 + digit.val) 0
  | _ => none

/-- The character that a letter after a backslash stands for. -/
def escaped? : Char → Option Char
  | '"' => some '"'
  | '\\' => some '\\'
  | '/' => some '/'
  | 'b' => some '\x08'
  | 'f' => some '\x0c'
  | 'n' => some '\n'
  | 'r' => some '\r'
  | 't' => some '\t'
  | _ => none

/-- The parts up to the closing quote, and what follows it; `found` holds the parts read so far, the
last one first. Controls have to be escaped. -/
def pieces (found : List Piece) : List Symbol → Option (List Piece × List Symbol)
  | [] => none
  | some '"' :: rest => some (found.reverse, rest)
  | some '\\' :: some 'u' :: a :: b :: c :: d :: rest =>
    match unit? [a, b, c, d] with
    | some unit => pieces (.ofUnit unit :: found) rest
    | none => none
  | some '\\' :: some letter :: rest =>
    match escaped? letter with
    | some c => pieces (.symbol (some c) :: found) rest
    | none => none
  | [some '\\'] => none
  | some '\\' :: none :: _ => none
  | some c :: rest => if c.toNat < 0x20 then none else pieces (.symbol (some c) :: found) rest
  | none :: rest => pieces (.symbol none :: found) rest

/-- The character of a pair of units. -/
def pairChar (leading trailing : Nat) : Char :=
  Char.ofNat ((leading - 0xD800) * 0x400 + (trailing - 0xDC00) + 0x10000)

/-- The characters of the parts, if they spell a text; `done` holds those so far, the last one
first. -/
def assemble (done : List Char) : List Piece → Option (List Char)
  | [] => some done.reverse
  | .symbol none :: _ => none
  | .symbol (some c) :: rest => assemble (c :: done) rest
  | .half leading :: .half trailing :: rest =>
    if isLeading leading && isTrailing trailing then
      assemble (pairChar leading trailing :: done) rest
    else none
  | .half _ :: _ => none

/-- A literal after its opening quote: its text, if it spells one, and what follows it. -/
def read (symbols : List Symbol) : Option (Option String × List Symbol) :=
  (pieces [] symbols).map fun (parts, rest) => ((assemble [] parts).map String.ofList, rest)

/-! ### Laws -/

theorem assemble_map_symbol (done cs : List Char) :
    assemble done (cs.map fun c => .symbol (some c)) = some (done.reverse ++ cs) := by
  induction cs generalizing done with
  | nil => simp [assemble]
  | cons c rest ih => simp [assemble, ih]

/-- A control is written with the digits of its code point. -/
theorem unit?_control {c : Char} (control : c.toNat < 0x20) :
    unit? [some '0', some '0', some (hexChar (lowDigit (c.toNat / 16))),
      some (hexChar (lowDigit c.toNat))] = some c.toNat := by
  have zero : hexDigit? '0' = some 0 := by decide
  simp only [unit?, hexDigits?, zero, hexDigit?_hexChar, Option.bind_eq_bind, Option.bind_some,
    Option.pure_def, Option.map_some, List.foldl_cons, List.foldl_nil, lowDigit]
  simp
  omega

/-- What is written for a character is read as that character. -/
theorem pieces_escapeChar (found : List Piece) (c : Char) (rest : List Symbol) :
    pieces found ((escapeChar c).map some ++ rest) = pieces (.symbol (some c) :: found) rest := by
  unfold escapeChar
  repeat' split
  all_goals try subst_vars
  all_goals try (simp [pieces, escaped?]; done)
  · next control =>
    have below : isLeading c.toNat = false ∧ isTrailing c.toNat = false := by
      simp [isLeading, isTrailing]; omega
    simp only [List.map_cons, List.map_nil, List.cons_append, List.nil_append]
    rw [pieces, unit?_control control]
    simp [Piece.ofUnit, below, Char.ofNat_toNat]
  · next quote slash _ _ _ _ _ visible =>
    rw [List.map_cons, List.map_nil, List.cons_append, List.nil_append]
    rw [pieces.eq_def]
    split <;> grind

/-- What is written is read up to its closing quote. -/
theorem pieces_escape (found : List Piece) (cs : List Char) (rest : List Symbol) :
    pieces found ((escape cs).map some ++ some '"' :: rest) =
      some (found.reverse ++ cs.map (fun c => .symbol (some c)), rest) := by
  induction cs generalizing found with
  | nil => simp [escape, pieces]
  | cons c cs ih =>
    have next := ih (.symbol (some c) :: found)
    simp only [escape, List.flatMap_cons, List.map_append, List.append_assoc] at next ⊢
    rw [pieces_escapeChar, next]
    simp

/-- A written literal reads back as its text. -/
theorem read_escape (s : String) (rest : List Symbol) :
    read ((escape s.toList).map some ++ some '"' :: rest) = some (some s, rest) := by
  simp [read, pieces_escape, assemble_map_symbol]

end Storefront.Json.Literal
