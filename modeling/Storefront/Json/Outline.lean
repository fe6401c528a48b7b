/-
**Outlines.**

Reading JSON stops at the first thing that is wrong, and a value of the wrong kind counts before text
that is not well formed further on.  So a text is first turned into an `Outline`: the tree of what can
be recognised from left to right, with `malformed` where a value should stand and none does, and
`broken` where a list or an object does not go on as it must.  Whoever wants a value walks the outline in
the same order and reports what comes first.

`Outline.scan` reads one value and says what follows it.  `Outline.wellFormed` holds for a value that
is complete; a literal in it need not spell a text.
-/

import Storefront.Json.Literal
import Storefront.Json.Numeral

namespace Storefront.Json

open Storefront.Text

mutual

/-- What can be recognised of a JSON value. -/
inductive Outline
  | null
  | boolean (value : Bool)
  | number (value : Number)
  /-- A literal with its text, if it spells one. -/
  | text (value : Option String)
  | array (elements : Elements)
  | object (members : Members)
  | malformed

/-- What can be recognised of a list. -/
inductive Elements
  | closed
  | broken
  | next (value : Outline) (rest : Elements)

/-- What can be recognised of an object. A name that is no literal has no value. -/
inductive Members
  | closed
  | broken
  | next (name value : Outline) (rest : Members)

end

namespace Outline

/-- May this symbol stand between the parts of a text? -/
def isBetween (symbol : Symbol) : Bool :=
  symbol == some ' ' || symbol == some '\n' || symbol == some '\t' || symbol == some '\r'

/-- The symbols from the first one that has a meaning. -/
def skip (symbols : List Symbol) : List Symbol := symbols.dropWhile isBetween

/-- A word after its first letter. -/
def scanWord (word : List Char) (value : Outline) (symbols : List Symbol) :
    Outline × List Symbol :=
  if word.map some = symbols.take word.length then (value, symbols.drop word.length)
  else (.malformed, symbols)

/-- A number, as far as one can be recognised. -/
def scanNumber (symbols : List Symbol) : Outline × List Symbol :=
  match Numeral.read? symbols with
  | some (numeral, rest) => (.number numeral.number, rest)
  | none => (.malformed, symbols)

/-- A literal after its opening quote. -/
def scanText (symbols : List Symbol) : Outline × List Symbol :=
  match Literal.read symbols with
  | some (value, rest) => (.text value, rest)
  | none => (.malformed, symbols)

mutual

/-- A value, and what follows it. -/
def scanValue : (fuel : Nat) → List Symbol → Outline × List Symbol
  | 0, symbols => (.malformed, symbols)
  | fuel + 1, symbols =>
    match skip symbols with
    | some 'n' :: rest => scanWord ['u', 'l', 'l'] .null rest
    | some 't' :: rest => scanWord ['r', 'u', 'e'] (.boolean true) rest
    | some 'f' :: rest => scanWord ['a', 'l', 's', 'e'] (.boolean false) rest
    | some '"' :: rest => scanText rest
    | some '[' :: rest =>
      match skip rest with
      | some ']' :: rest => (.array .closed, rest)
      | rest =>
        let (elements, rest) := scanElements fuel rest
        (.array elements, rest)
    | some '\x7b' :: rest =>
      match skip rest with
      | some '\x7d' :: rest => (.object .closed, rest)
      | rest =>
        let (members, rest) := scanMembers fuel rest
        (.object members, rest)
    | rest => scanNumber rest

/-- The elements of a list from one that has to be there. -/
def scanElements : (fuel : Nat) → List Symbol → Elements × List Symbol
  | 0, symbols => (.broken, symbols)
  | fuel + 1, symbols =>
    let (value, rest) := scanValue fuel symbols
    match skip rest with
    | some ']' :: rest => (.next value .closed, rest)
    | some ',' :: rest =>
      let (others, rest) := scanElements fuel rest
      (.next value others, rest)
    | rest => (.next value .broken, rest)

/-- The members of an object from one that has to be there. -/
def scanMembers : (fuel : Nat) → List Symbol → Members × List Symbol
  | 0, symbols => (.broken, symbols)
  | fuel + 1, symbols =>
    match scanValue fuel symbols with
    | (.text name, rest) =>
      match skip rest with
      | some ':' :: rest =>
        let (value, rest) := scanValue fuel rest
        match skip rest with
        | some '\x7d' :: rest => (.next (.text name) value .closed, rest)
        | some ',' :: rest =>
          let (others, rest) := scanMembers fuel rest
          (.next (.text name) value others, rest)
        | rest => (.next (.text name) value .broken, rest)
      | rest => (.next (.text name) .malformed .broken, rest)
    | (name, rest) => (.next name .malformed .broken, rest)

end

/-- One value, and what follows it. -/
def scan (symbols : List Symbol) : Outline × List Symbol :=
  scanValue (2 * symbols.length + 2) symbols

/-! ### Complete values -/

mutual

/-- Is the value complete? -/
def wellFormed : Outline → Bool
  | .array elements => elementsWellFormed elements
  | .object members => membersWellFormed members
  | .malformed => false
  | .null | .boolean _ | .number _ | .text _ => true

/-- Are all elements complete, and the list closed? -/
def elementsWellFormed : Elements → Bool
  | .closed => true
  | .broken => false
  | .next value rest => wellFormed value && elementsWellFormed rest

/-- Are all members complete, with literals for names, and the object closed? -/
def membersWellFormed : Members → Bool
  | .closed => true
  | .broken => false
  | .next (.text _) value rest => wellFormed value && membersWellFormed rest
  | .next _ _ _ => false

end

end Outline

end Storefront.Json
