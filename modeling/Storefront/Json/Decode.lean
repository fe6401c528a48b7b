/-
**Decoding.**

A `Decoder` turns the outline of a JSON value into a value of the program, or says what comes first
among the things that are wrong: text that is not well formed, or a `Mismatch` and the path to it.

Records are described by a `Shape`.  They are written as an object, with members in any order and unknown
ones skipped, or as the list of their fields; `Shape.decode` reads both.

Main statements:

* `list_ok_iff`: a list decodes exactly when all its elements do;
* `read_eq_ok_iff`: reading a text succeeds exactly when its outline decodes and nothing follows.
-/

import Storefront.Json.Outline
import Storefront.Number.Shortest
import Storefront.Text.Decimal
import Storefront.Text.Quoted
import Storefront.Time.DateReader
import Storefront.Uuid.Reader

namespace Storefront.Json

open Storefront.Text

/-! ### What can be wrong -/

/-- The kind of a value that was found, with the value if it is a simple one. -/
inductive Found
  | null
  | boolean (value : Bool)
  | integer (value : Int)
  | real (value : Binary64)
  | text (value : String)
  | sequence
  | map
deriving DecidableEq

/-- How the value is named in a message. -/
def Found.description : Found → String
  | .null => "null"
  | .boolean value => "boolean `" ++ (if value then "true" else "false") ++ "`"
  | .integer value => "integer `" ++ String.ofList (signed value) ++ "`"
  | .real value => "floating point `" ++ Shortest.text value ++ "`"
  | .text value => "string " ++ quoted value
  | .sequence => "sequence"
  | .map => "map"

/-- Why a well-formed value is not the one that is wanted. -/
inductive Mismatch
  | type (found : Found) (expected : String)
  | range (value : Int) (expected : String)
  | length (found : Nat) (expected : String)
  | missing (field : String)
  | duplicate (field : String)
  | variant (found : String) (known : List String)
  | identifier (cause : Uuid.ReadError)
  | date (cause : Date.ReadError)
deriving DecidableEq

/-- What is said of a mismatch. -/
def Mismatch.message : Mismatch → String
  | .type found expected => "invalid type: " ++ found.description ++ ", expected " ++ expected
  | .range value expected =>
    "invalid value: integer `" ++ String.ofList (signed value) ++ "`, expected " ++ expected
  | .length found expected =>
    "invalid length " ++ String.ofList (digits found) ++ ", expected " ++ expected
  | .missing field => "missing field `" ++ field ++ "`"
  | .duplicate field => "duplicate field `" ++ field ++ "`"
  | .variant found known =>
    "unknown variant `" ++ found ++ "`, expected one of "
      ++ String.intercalate ", " (known.map fun name => "`" ++ name ++ "`")
  | .identifier cause => "UUID parsing failed: " ++ cause.message
  | .date cause => cause.message

/-- A step from a value to one inside it. -/
inductive Step
  | field (name : String)
  | index (position : Nat)
deriving DecidableEq

/-- A path as it stands before a message, with a dot between the names of fields. -/
def pathText : List Step → String
  | [] => ""
  | .field name :: rest => name ++ inner rest
  | .index position :: rest => "[" ++ String.ofList (digits position) ++ "]" ++ inner rest
where
  /-- The text of a path that does not begin at the root. -/
  inner : List Step → String
    | [] => ""
    | .field name :: rest => "." ++ name ++ inner rest
    | .index position :: rest => "[" ++ String.ofList (digits position) ++ "]" ++ inner rest

/-- Why a text is not read. -/
inductive ReadError
  | malformed
  | mismatch (path : List Step) (cause : Mismatch)
deriving DecidableEq

/-- The error as it is seen from the value that holds the one at fault. -/
def ReadError.within (step : Step) : ReadError → ReadError
  | .malformed => .malformed
  | .mismatch path cause => .mismatch (step :: path) cause

/-- Reads a value from an outline. -/
abbrev Decoder (α : Type) := Outline → Except ReadError α

/-- The report on a value of the wrong kind. What is not well formed is reported as that. -/
def unexpected (expected : String) : Outline → ReadError
  | .null => .mismatch [] (.type .null expected)
  | .boolean value => .mismatch [] (.type (.boolean value) expected)
  | .number (.integer value) => .mismatch [] (.type (.integer value) expected)
  | .number (.real value) => .mismatch [] (.type (.real value) expected)
  | .number .beyond => .malformed
  | .text (some value) => .mismatch [] (.type (.text value) expected)
  | .text none => .malformed
  | .array _ => .mismatch [] (.type .sequence expected)
  | .object _ => .mismatch [] (.type .map expected)
  | .malformed => .malformed

namespace Decoder

variable {α σ : Type}

/-! ### Simple values -/

/-- Reads a text. -/
def text : Decoder String
  | .text (some value) => .ok value
  | other => .error (unexpected "a string" other)

/-- An integer of a range. -/
def integer (range : IntegerRange) (expected : String) : Decoder Int
  | .number (.integer value) =>
    if range.contains value then .ok value else .error (.mismatch [] (.range value expected))
  | other => .error (unexpected expected other)

/-- Reads an integer of thirty-two bits. -/
def int32 : Decoder Int := integer (.signed 32) "i32"

/-- Reads an integer of sixty-four bits. -/
def int64 : Decoder Int := integer (.signed 64) "i64"

/-- A double; integers are rounded to one. -/
def real : Decoder Binary64
  | .number (.integer value) => .ok (Binary64.ofInt value)
  | .number (.real value) => .ok value
  | other => .error (unexpected "f64" other)

/-- An identifier; white space around it is not accepted. -/
def uuid : Decoder Uuid
  | .text (some value) =>
    (Uuid.read value.toList).mapError fun cause => .mismatch [] (.identifier cause)
  | other => .error (unexpected "a formatted UUID string" other)

/-- Reads a date, which is written as a text. -/
def date : Decoder Date
  | .text (some value) =>
    (Date.read value.toList).mapError fun cause => .mismatch [] (.date cause)
  | other => .error (unexpected "a formatted date string" other)

/-- Reads a value that may be `null`. -/
def optional (decode : Decoder α) : Decoder (Option α)
  | .null => .ok none
  | other => (decode other).map some

/-- One of several names, on its own or as the only member of an object, with null as its value. -/
def variant (known : List (String × α)) : Decoder α
  | .text (some name) => named name
  | .object (.next name value rest) => do
    let chosen ← match name with
      | .text (some name) => named name
      | other => .error (unexpected "variant identifier" other)
    match value, rest with
    | .null, .closed => .ok chosen
    | .null, _ => .error .malformed
    | other, _ => .error (unexpected "unit" other)
  | _ => .error .malformed
where
  /-- The value with this name. -/
  named (name : String) : Except ReadError α :=
    match known.lookup name with
    | some value => .ok value
    | none => .error (.mismatch [] (.variant name (known.map Prod.fst)))

/-! ### Lists -/

/-- The elements of a list from the one at a position. -/
def elements (decode : Decoder α) (position : Nat) : Elements → Except ReadError (List α)
  | .closed => .ok []
  | .broken => .error .malformed
  | .next value rest => do
    let first ← (decode value).mapError (.within (.index position))
    let others ← elements decode (position + 1) rest
    return first :: others

/-- Reads a list. The first element that cannot be read is the error. -/
def list (decode : Decoder α) : Decoder (List α)
  | .array found => elements decode 0 found
  | other => .error (unexpected "a sequence" other)

end Decoder

/-! ### Records -/

/-- A field of a record, as it is filled in on a draft of the record. -/
structure Field (σ : Type) where
  name : String
  /-- May the field be left out at the end of the list of fields? -/
  defaulted : Bool := false
  /-- Is the field filled in? -/
  given : σ → Bool
  /-- Fills the field in. -/
  fill : Outline → σ → Except ReadError σ

/-- How a record is written: its name, its fields in order, the draft without any of them, and the
record that a draft makes. -/
structure Shape (σ α : Type) where
  name : String
  fields : List (Field σ)
  draft : σ
  finish : σ → Except Mismatch α

namespace Shape

variable {σ α : Type}

/-- A field whose value a decoder reads. -/
def field {β : Type} (name : String) (decode : Decoder β) (get : σ → Option β)
    (set : β → σ → σ) (defaulted : Bool := false) : Field σ where
  name := name
  defaulted := defaulted
  given draft := (get draft).isSome
  fill value draft := (decode value).map fun value => set value draft

/-- What is expected instead of a value of another kind. -/
def expected (shape : Shape σ α) : String := "struct " ++ shape.name

/-- What is expected instead of a list with too few elements. -/
def expectedElements (shape : Shape σ α) : String :=
  shape.expected ++ " with " ++ String.ofList (digits shape.fields.length) ++ " elements"

/-- Fills a draft from the members of an object. A second value of a field is refused before it is
looked at. -/
def fillMembers (shape : Shape σ α) (draft : σ) : Members → Except ReadError σ
  | .closed => .ok draft
  | .broken => .error .malformed
  | .next (.text (some name)) value rest =>
    match shape.fields.find? fun field => field.name == name with
    | none => if value.wellFormed then fillMembers shape draft rest else .error .malformed
    | some field =>
      if field.given draft then .error (.mismatch [] (.duplicate name))
      else
        match field.fill value draft with
        | .ok draft => fillMembers shape draft rest
        | .error error => .error (error.within (.field name))
  | .next _ _ _ => .error .malformed

/-- Fills a draft from the elements of a list, from the field at a position. -/
def fillElements (shape : Shape σ α) :
    (fields : List (Field σ)) → (position : Nat) → σ → Elements → Except ReadError σ
  | [], _, draft, .closed => .ok draft
  | [], _, _, _ => .error .malformed
  | _ :: _, _, _, .broken => .error .malformed
  | field :: fields, position, draft, .closed =>
    if field.defaulted then fillElements shape fields (position + 1) draft .closed
    else .error (.mismatch [] (.length position shape.expectedElements))
  | field :: fields, position, draft, .next value rest =>
    match field.fill value draft with
    | .ok draft => fillElements shape fields (position + 1) draft rest
    | .error error => .error (error.within (.index position))

/-- The draft that an outline fills in. -/
def fill (shape : Shape σ α) : Outline → Except ReadError σ
  | .object members => shape.fillMembers shape.draft members
  | .array found => shape.fillElements shape.fields 0 shape.draft found
  | other => .error (unexpected shape.expected other)

/-- Reads a record: first what is given of it, then whether that suffices. -/
def decode (shape : Shape σ α) : Decoder α := fun outline => do
  let draft ← shape.fill outline
  (shape.finish draft).mapError (.mismatch [])

/-- The value of a field that has to be there. -/
def required {β : Type} (name : String) : Option β → Except Mismatch β
  | some value => .ok value
  | none => .error (.missing name)

end Shape

/-! ### Whole texts -/

/-- Reads a text that holds one value and nothing else. -/
def read {α : Type} (decode : Decoder α) (symbols : List Symbol) : Except ReadError α := do
  let (outline, rest) := Outline.scan symbols
  let value ← decode outline
  if (Outline.skip rest).isEmpty then return value else throw .malformed

/-- Reading a text succeeds exactly when its outline decodes and nothing follows it. -/
theorem read_eq_ok_iff {α : Type} {decode : Decoder α} {symbols : List Symbol} {value : α} :
    read decode symbols = .ok value ↔
      decode (Outline.scan symbols).1 = .ok value ∧
        Outline.skip (Outline.scan symbols).2 = [] := by
  simp only [read, bind, Except.bind]
  cases decode (Outline.scan symbols).1 with
  | error cause => simp
  | ok found =>
    by_cases rest : Outline.skip (Outline.scan symbols).2 = []
    · simp [rest, pure, Except.pure]
    · simp [rest, throw, throwThe, MonadExceptOf.throw]

/-- The outlines of a complete list. -/
def Elements.toList? : Elements → Option (List Outline)
  | .closed => some []
  | .broken => none
  | .next value rest => rest.toList?.map (value :: ·)

theorem Decoder.elements_ok_iff {α : Type} {decode : Decoder α} {position : Nat}
    {found : Elements} {values : List α} :
    elements decode position found = .ok values ↔
      ∃ outlines, found.toList? = some outlines ∧
        outlines.map decode = values.map Except.ok := by
  fun_induction elements decode position found generalizing values with
  | case1 => cases values <;> simp [Elements.toList?]
  | case2 => simp [Elements.toList?]
  | case3 position value rest ih =>
    cases first : decode value with
    | error cause =>
      delta Except.mapError
      simp only [bind, Except.bind, Elements.toList?, reduceCtorEq, false_iff]
      rintro ⟨outlines, complete, same⟩
      obtain ⟨others, -, rfl⟩ := Option.map_eq_some_iff.mp complete
      cases values with
      | nil => simp at same
      | cons head tail => simp [first] at same
    | ok head =>
      delta Except.mapError
      simp only [bind, Except.bind, Elements.toList?, pure, Except.pure]
      cases others : elements decode (position + 1) rest with
      | error cause =>
        simp only [reduceCtorEq, false_iff]
        rintro ⟨outlines, complete, same⟩
        obtain ⟨tail, found, rfl⟩ := Option.map_eq_some_iff.mp complete
        cases values with
        | nil => simp at same
        | cons value values =>
          simp only [List.map_cons, List.cons.injEq] at same
          have := (@ih values).mpr ⟨tail, found, same.2⟩
          rw [others] at this
          cases this
      | ok tail =>
        obtain ⟨outlines, complete, same⟩ := (@ih tail).mp others
        constructor
        · rintro ⟨⟩
          exact ⟨value :: outlines, by simp [complete], by simp [first, same]⟩
        · rintro ⟨outlines', complete', same'⟩
          simp only [complete, Option.map_some, Option.some.injEq] at complete'
          subst complete'
          cases values with
          | nil => simp at same'
          | cons value' values' =>
            simp only [List.map_cons, List.cons.injEq, first, Except.ok.injEq, same] at same'
            obtain ⟨rfl, tails⟩ := same'
            have := (List.map_inj_right fun _ _ h => Except.ok.inj h).mp tails
            rw [this]

/-- A list decodes exactly when it is complete and all its elements decode. -/
theorem Decoder.list_ok_iff {α : Type} {decode : Decoder α} {found : Elements} {values : List α} :
    list decode (.array found) = .ok values ↔
      ∃ outlines, found.toList? = some outlines ∧ outlines.map decode = values.map Except.ok :=
  elements_ok_iff

end Storefront.Json
