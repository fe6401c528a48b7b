/-
**Media types.**

The kind of a body is named by a type and a subtype, and perhaps parameters.  `MediaType.isJson` accepts
`application/json` and every `application` type with the suffix `+json`, in any case.

Parameters are read one character at a time: `Place` says where among them a reader stands, `Place.step`
moves it over a character.  After the last semicolon there need not be a parameter.
-/

namespace Storefront.MediaType

/-- May the character be part of a name? -/
def isToken (c : Char) : Bool := c.isAlphanum || "!#$%&'*+-.^_`|~".toList.contains c

/-- May the character stand between quotes? The quote itself may if it comes first. -/
def isQuotable (c : Char) : Bool := 0x20 ≤ c.toNat && c.toNat < 0x7F

/-! ### Parameters -/

/-- Where a reader of parameters stands. -/
inductive Place
  /-- Behind a semicolon and perhaps spaces. -/
  | between
  | name
  /-- Behind an equals sign. -/
  | equals
  | value
  /-- Behind an opening quote. -/
  | opened
  | quoted
  /-- Behind a closing quote and perhaps spaces. -/
  | closed
deriving DecidableEq

namespace Place

/-- The place behind one more character, if it may stand there. -/
def step (c : Char) : Place → Option Place
  | .between => if c = ' ' then some .between else if isToken c then some .name else none
  | .name => if c = '=' then some .equals else if isToken c then some .name else none
  | .equals => if c = '"' then some .opened else if isToken c then some .value else none
  | .value => if c = ';' then some .between else if isToken c then some .value else none
  | .opened => if isQuotable c then some .quoted else none
  | .quoted => if c = '"' then some .closed else if isQuotable c then some .quoted else none
  | .closed => if c = ';' then some .between else if c = ' ' then some .closed else none

/-- May the parameters end here? -/
def isEnd : Place → Bool
  | .between | .equals | .value | .closed => true
  | .name | .opened | .quoted => false

/-- The place behind further characters, if they may stand there. -/
def run (place : Place) : List Char → Option Place
  | [] => some place
  | c :: rest => (place.step c).bind fun next => next.run rest

end Place

/-- Are these parameters, without the first semicolon? -/
def areParameters (cs : List Char) : Bool := (Place.between.run cs).any Place.isEnd

/-! ### Types -/

/-- The subtype without its suffix, and the suffix: what follows the last plus sign that is not the first
character. -/
def splitSuffix (cs : List Char) : List Char × Option (List Char) :=
  let after := (cs.reverse.takeWhile fun c => c != '+').reverse
  let before := cs.take (cs.length - after.length - 1)
  if cs.contains '+' && !before.isEmpty then (before, some after) else (cs, none)

/-- Do the type and the subtype name JSON? -/
def namesJson (kind subtype : List Char) : Bool :=
  let (name, suffix) := splitSuffix subtype
  kind == "application".toList && (name == "json".toList || suffix == some "json".toList)

/-- Does the text name JSON? -/
def isJson (text : String) : Bool :=
  let cs := text.toList.map Char.toLower
  match cs.dropWhile isToken with
  | '/' :: rest =>
    namesJson (cs.takeWhile isToken) (rest.takeWhile isToken) &&
      match rest.dropWhile isToken with
      | [] => true
      | ';' :: rest => areParameters rest
      | _ => false
  | _ => false

end Storefront.MediaType
