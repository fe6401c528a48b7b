/-
**Decoders that agree.**

Two decoders agree up to a relation if the one accepts a value exactly if the other accepts, from the same
outline, a value that is related to it (`Decoder.Agrees`).  The relation says in what the values differ,
for instance in that an identifier has been read or is still a text.

Lists, optional values and records of decoders that agree agree again.  For a record the drafts are
related while they are filled in (`Shape.Agrees`), field by field.  This is a simulation in both
directions (`Simulates`), but the way back is taken from the end: a draft of the one record has a
counterpart if what it is filled in to has one.  So a field must not be filled in twice
(`Field.Agrees.fill`), which an object is refused for and the list of the fields cannot do if the fields are
separate (`Shape.Separate`).

Main statements:

* `Decoder.Agrees.list`, `Decoder.Agrees.optional`: lists and optional values;
* `Simulates.trans`: steps that simulate each other one after the other;
* `Shape.Agrees.fillMembers`, `Shape.Agrees.fillElements`: records as objects and as lists;
* `Shape.Agrees.decode`: records.
-/

import Mathlib.Data.List.Forall2
import Mathlib.Data.Option.Basic
import Storefront.Json.Decode

namespace Storefront.Json

variable {α β σ τ : Type} {related : α → β → Prop}

/-! ### Values and lists -/

namespace Decoder

/-- The one decoder accepts a value exactly if the other one accepts a value related to it. -/
def Agrees (related : α → β → Prop) (first : Decoder α) (second : Decoder β) : Prop :=
  ∀ outline value, first outline = .ok value ↔ ∃ other, second outline = .ok other ∧ related value other

variable {first : Decoder α} {second : Decoder β}

theorem Agrees.refl (decode : Decoder α) : Agrees Eq decode decode := by
  intro outline value
  constructor
  · exact fun read => ⟨value, read, rfl⟩
  · rintro ⟨_, read, rfl⟩
    exact read

/-- Optional values agree: null is absent for both. -/
theorem Agrees.optional (agree : Agrees related first second) :
    Agrees (Option.Rel related) (optional first) (optional second) := by
  have present : ∀ {γ : Type} {decode : Decoder γ} {outline : Outline} {value : Option γ},
      outline ≠ .null →
        (Decoder.optional decode outline = .ok value ↔
          ∃ inner, decode outline = .ok inner ∧ some inner = value) := by
    intro γ decode outline value other
    have unfolded : Decoder.optional decode outline = (decode outline).map some := by
      unfold Decoder.optional
      split
      · exact absurd rfl other
      · rfl
    rw [unfolded]
    cases decode outline <;> simp [Except.map]
  intro outline value
  by_cases absent : outline = .null
  · subst absent
    show Except.ok none = Except.ok value ↔ ∃ other, Except.ok none = Except.ok other ∧ _
    constructor
    · intro same
      exact ⟨none, rfl, Except.ok.inj same ▸ .none⟩
    · rintro ⟨_, same, together⟩
      cases same
      cases together
      rfl
  · simp only [present absent]
    constructor
    · rintro ⟨inner, read, rfl⟩
      obtain ⟨other, read', together⟩ := (agree outline inner).mp read
      exact ⟨some other, ⟨other, read', rfl⟩, .some together⟩
    · rintro ⟨_, ⟨other, read, rfl⟩, together⟩
      cases together with
      | some together => exact ⟨_, (agree outline _).mpr ⟨other, read, together⟩, rfl⟩

/-- All elements are accepted by the one exactly if all are accepted by the other. -/
theorem Agrees.map_eq_iff (agree : Agrees related first second) {outlines : List Outline}
    {values : List α} :
    outlines.map first = values.map Except.ok ↔
      ∃ others, outlines.map second = others.map Except.ok ∧ List.Forall₂ related values others := by
  induction outlines generalizing values with
  | nil =>
    constructor
    · intro same
      obtain rfl := List.map_eq_nil_iff.mp same.symm
      exact ⟨[], rfl, .nil⟩
    · rintro ⟨others, same, together⟩
      obtain rfl := List.map_eq_nil_iff.mp same.symm
      cases together
      rfl
  | cons outline rest ih =>
    constructor
    · intro same
      obtain ⟨value, tail, rfl, read, later⟩ := List.map_eq_cons_iff.mp same.symm
      obtain ⟨other, read', together⟩ := (agree outline value).mp read.symm
      obtain ⟨others, later', all⟩ := ih.mp later.symm
      exact ⟨other :: others, by rw [List.map_cons, List.map_cons, read', later'], .cons together all⟩
    · rintro ⟨others, same, together⟩
      obtain ⟨other, tail, rfl, read, later⟩ := List.map_eq_cons_iff.mp same.symm
      cases together with
      | cons together all =>
        rw [List.map_cons, List.map_cons, (agree outline _).mpr ⟨other, read.symm, together⟩,
          ih.mpr ⟨tail, later.symm, all⟩]

/-- Lists agree element by element. -/
theorem Agrees.list (agree : Agrees related first second) :
    Agrees (List.Forall₂ related) (list first) (list second) := by
  intro outline values
  cases outline with
  | array found =>
    simp only [list_ok_iff]
    constructor
    · rintro ⟨outlines, complete, same⟩
      obtain ⟨others, same', together⟩ := agree.map_eq_iff.mp same
      exact ⟨others, ⟨outlines, complete, same'⟩, together⟩
    · rintro ⟨others, ⟨outlines, complete, same⟩, together⟩
      exact ⟨outlines, complete, agree.map_eq_iff.mpr ⟨others, same, together⟩⟩
  | _ => exact ⟨nofun, nofun⟩

end Decoder

/-! ### Simulation -/

variable {drafts : σ → τ → Prop}

/-- What can be made of the drafts related to this one is what is related to something made of it. -/
def Simulates (drafts : σ → τ → Prop) (first : σ → σ → Prop) (second : τ → τ → Prop)
    (other : τ) : Prop :=
  ∀ filled, (∃ draft, drafts draft other ∧ first draft filled) ↔
    ∃ filled', second other filled' ∧ drafts filled filled'

namespace Simulates

variable {first next : σ → σ → Prop} {second next' : τ → τ → Prop} {other : τ}

/-- Drafts may be left as they are. -/
theorem refl (other : τ) : Simulates drafts Eq Eq other := by
  intro filled
  constructor
  · rintro ⟨draft, together, rfl⟩
    exact ⟨other, rfl, together⟩
  · rintro ⟨_, rfl, together⟩
    exact ⟨filled, together, rfl⟩

/-- Both may depend on conditions that related drafts agree on. -/
theorem guarded {condition : σ → Prop} {condition' : τ → Prop}
    (same : ∀ {draft}, drafts draft other → (condition draft ↔ condition' other))
    (simulates : condition' other → Simulates drafts first second other) :
    Simulates drafts (fun draft filled => condition draft ∧ first draft filled)
      (fun other filled' => condition' other ∧ second other filled') other := by
  intro filled
  constructor
  · rintro ⟨draft, together, holds, made⟩
    have holds' : condition' other := (same together).mp holds
    obtain ⟨filled', made', together'⟩ := (simulates holds' filled).mp ⟨draft, together, made⟩
    exact ⟨filled', ⟨holds', made'⟩, together'⟩
  · rintro ⟨filled', ⟨holds', made'⟩, together'⟩
    obtain ⟨draft, together, made⟩ := (simulates holds' filled).mpr ⟨filled', made', together'⟩
    exact ⟨draft, together, (same together).mpr holds', made⟩

/-- One step may follow another. Backwards the last one is undone first. -/
theorem trans (simulates : Simulates drafts first second other)
    (later : ∀ between', second other between' → Simulates drafts next next' between') :
    Simulates drafts (fun draft filled => ∃ between, first draft between ∧ next between filled)
      (fun other filled' => ∃ between', second other between' ∧ next' between' filled') other := by
  intro filled
  constructor
  · rintro ⟨draft, together, between, made, rest⟩
    obtain ⟨between', made', together⟩ := (simulates between).mp ⟨draft, together, made⟩
    obtain ⟨filled', rest', together'⟩ := (later between' made' filled).mp ⟨between, together, rest⟩
    exact ⟨filled', ⟨between', made', rest'⟩, together'⟩
  · rintro ⟨filled', ⟨between', made', rest'⟩, together'⟩
    obtain ⟨between, together, rest⟩ := (later between' made' filled).mpr ⟨filled', rest', together'⟩
    obtain ⟨draft, together, made⟩ := (simulates between).mpr ⟨between', made', together⟩
    exact ⟨draft, together, between, made, rest⟩

end Simulates

/-! ### Fields and records -/

/-- The fields have the same name and place, and a draft of the second record that is about to have its
field filled in and the related drafts of the first one lead to the same drafts. -/
structure Field.Agrees (drafts : σ → τ → Prop) (first : Field σ) (second : Field τ) : Prop where
  name : first.name = second.name
  defaulted : first.defaulted = second.defaulted
  given : ∀ {draft other}, drafts draft other → first.given draft = second.given other
  fill : ∀ {outline other}, second.given other = false →
    Simulates drafts (fun draft filled => first.fill outline draft = .ok filled)
      (fun other filled' => second.fill outline other = .ok filled') other

/-- A field is filled in with the value that its decoder reads. -/
theorem Shape.fill_field_iff {name : String} {decode : Decoder α} {get : σ → Option α}
    {set : α → σ → σ} {defaulted : Bool} {outline : Outline} {draft filled : σ} :
    (field name decode get set defaulted).fill outline draft = .ok filled ↔
      ∃ value, decode outline = .ok value ∧ set value draft = filled := by
  show (decode outline).map (fun value => set value draft) = .ok filled ↔ _
  cases decode outline <;> simp [Except.map]

/-- Fields agree whose values do, if the drafts that are related to a filled one are the filled ones. -/
theorem Field.Agrees.of_decoders {first : Decoder α} {second : Decoder β} {name : String}
    {defaulted : Bool} {get : σ → Option α} {set : α → σ → σ} {get' : τ → Option β}
    {set' : β → τ → τ}
    (agree : Decoder.Agrees related first second)
    (given : ∀ {draft other}, drafts draft other → (get draft).isSome = (get' other).isSome)
    (filled : ∀ {other value' filled}, get' other = none →
      (drafts filled (set' value' other) ↔
        ∃ value draft, related value value' ∧ drafts draft other ∧ set value draft = filled)) :
    Agrees drafts (Shape.field name first get set defaulted) (Shape.field name second get' set' defaulted)
    where
  name := rfl
  defaulted := rfl
  given := given
  fill {outline other} empty := by
    intro result
    replace empty : get' other = none := by simpa [Shape.field] using empty
    simp only [Shape.fill_field_iff]
    constructor
    · rintro ⟨draft, together, value, read, same⟩
      obtain ⟨value', read', alike⟩ := (agree outline value).mp read
      exact ⟨_, ⟨value', read', rfl⟩, (filled empty).mpr ⟨value, draft, alike, together, same⟩⟩
    · rintro ⟨_, ⟨value', read', rfl⟩, together⟩
      obtain ⟨value, draft, alike, together, same⟩ := (filled empty).mp together
      exact ⟨draft, together, value, (agree outline value).mpr ⟨value', read', alike⟩, same⟩

namespace Shape

/-- No field is filled in at first, and none is filled in with another one. -/
structure Separate (shape : Shape σ α) : Prop where
  empty : ∀ field ∈ shape.fields, field.given shape.draft = false
  apart : shape.fields.Pairwise fun field other =>
    ∀ outline draft filled, field.fill outline draft = .ok filled → other.given filled = other.given draft

/-- Fields, drafts and the records that the drafts make are related. -/
structure Agrees (drafts : σ → τ → Prop) (related : α → β → Prop) (first : Shape σ α)
    (second : Shape τ β) : Prop where
  fields : List.Forall₂ (Field.Agrees drafts) first.fields second.fields
  draft : ∀ {draft}, drafts draft second.draft ↔ draft = first.draft
  finish : ∀ {other value}, (∃ draft, drafts draft other ∧ first.finish draft = .ok value) ↔
    ∃ value', second.finish other = .ok value' ∧ related value value'

section Accepted

variable {shape : Shape σ α} {field : Field σ} {fields : List (Field σ)} {draft filled : σ}
  {name : String} {value : Outline} {position : Nat}

/-- A member with the name of a field is accepted if the field is empty and can be filled in. -/
theorem fillMembers_known {rest : Members}
    (known : (shape.fields.find? fun field => field.name == name) = some field) :
    shape.fillMembers draft (.next (.text (some name)) value rest) = .ok filled ↔
      field.given draft = false ∧
        ∃ next, field.fill value draft = .ok next ∧ shape.fillMembers next rest = .ok filled := by
  rw [fillMembers, known]
  by_cases given : field.given draft = true
  · simp [given]
  · simp only [given]
    cases field.fill value draft <;> simp

/-- A member with another name is accepted if its value is well formed. -/
theorem fillMembers_unknown {rest : Members}
    (unknown : (shape.fields.find? fun field => field.name == name) = none) :
    shape.fillMembers draft (.next (.text (some name)) value rest) = .ok filled ↔
      value.wellFormed = true ∧ shape.fillMembers draft rest = .ok filled := by
  rw [fillMembers, unknown]
  by_cases sound : value.wellFormed = true <;> simp [sound]

/-- A name that is no text is not accepted. -/
theorem fillMembers_nameless {name : Outline} {rest : Members}
    (nameless : ∀ text, name ≠ .text (some text)) :
    shape.fillMembers draft (.next name value rest) = .error .malformed := by
  rw [fillMembers]
  exact nameless

theorem fillElements_next {rest : Elements} :
    shape.fillElements (field :: fields) position draft (.next value rest) = .ok filled ↔
      ∃ next, field.fill value draft = .ok next ∧
        shape.fillElements fields (position + 1) next rest = .ok filled := by
  rw [fillElements]
  cases field.fill value draft <;> simp

theorem fillElements_closed :
    shape.fillElements (field :: fields) position draft .closed = .ok filled ↔
      field.defaulted = true ∧ shape.fillElements fields (position + 1) draft .closed = .ok filled := by
  rw [fillElements]
  by_cases defaulted : field.defaulted = true <;> simp [defaulted]

/-- A record is what its draft, once it is filled in, makes. -/
theorem decode_eq_ok_iff {outline : Outline} {value : α} :
    shape.decode outline = .ok value ↔
      ∃ draft, shape.fill outline = .ok draft ∧ shape.finish draft = .ok value := by
  simp only [decode, bind, Except.bind]
  cases shape.fill outline with
  | error cause => simp
  | ok draft => cases made : shape.finish draft <;> simp [Except.mapError, made]

end Accepted

namespace Agrees

variable {first : Shape σ α} {second : Shape τ β}

/-- A name belongs to fields that agree, or to none. -/
theorem find_agrees {fields : List (Field σ)} {others : List (Field τ)}
    (agree : List.Forall₂ (Field.Agrees drafts) fields others) (name : String) :
    ((fields.find? fun field => field.name == name) = none ∧
        (others.find? fun field => field.name == name) = none) ∨
      ∃ field other, (fields.find? fun field => field.name == name) = some field ∧
        (others.find? fun field => field.name == name) = some other ∧ Field.Agrees drafts field other := by
  induction agree with
  | nil => exact .inl ⟨rfl, rfl⟩
  | @cons field other _ _ together _ ih =>
    rw [List.find?_cons, List.find?_cons, together.name]
    cases other.name == name with
    | true => exact .inr ⟨field, other, rfl, rfl, together⟩
    | false => exact ih

/-- Objects fill related drafts in to related drafts. -/
theorem fillMembers (agree : Agrees drafts related first second) (members : Members) (other : τ) :
    Simulates drafts (fun draft filled => first.fillMembers draft members = .ok filled)
      (fun other filled' => second.fillMembers other members = .ok filled') other := by
  match members with
  | .closed => simpa only [Shape.fillMembers, Except.ok.injEq] using Simulates.refl other
  | .broken => simp [Simulates, Shape.fillMembers]
  | .next name value rest =>
    by_cases nameless : ∀ text, name ≠ .text (some text)
    · simp [Simulates, fillMembers_nameless nameless]
    · obtain ⟨name, rfl⟩ := not_forall_not.mp nameless
      rcases find_agrees agree.fields name with
        ⟨unknown, unknown'⟩ | ⟨field, field', known, known', alike⟩
      · simp only [fillMembers_unknown unknown, fillMembers_unknown unknown']
        exact .guarded (fun _ => Iff.rfl) fun _ => fillMembers agree rest other
      · simp only [fillMembers_known known, fillMembers_known known']
        refine .guarded (fun together => ?_) fun empty => (alike.fill empty).trans fun next' _ => ?_
        · rw [alike.given together]
        · exact fillMembers agree rest next'

/-- Lists of fields fill related drafts in to related drafts, if the fields are separate and all to come are
empty. -/
theorem fillElements {fields : List (Field σ)} {others : List (Field τ)}
    (agree : List.Forall₂ (Field.Agrees drafts) fields others)
    (apart : others.Pairwise fun field other =>
      ∀ outline draft filled, field.fill outline draft = .ok filled →
        other.given filled = other.given draft)
    {other : τ} (empty : ∀ field ∈ others, field.given other = false) (position : Nat)
    (elements : Elements) :
    Simulates drafts (fun draft filled => first.fillElements fields position draft elements = .ok filled)
      (fun other filled' => second.fillElements others position other elements = .ok filled') other := by
  induction agree generalizing other position elements with
  | nil =>
    cases elements with
    | closed => simpa only [Shape.fillElements, Except.ok.injEq] using Simulates.refl other
    | _ => simp [Simulates, Shape.fillElements]
  | @cons field field' fields others alike _ ih =>
    obtain ⟨alone, apart⟩ := List.pairwise_cons.mp apart
    obtain ⟨unfilled, empty⟩ := List.forall_mem_cons.mp empty
    cases elements with
    | broken => simp [Simulates, Shape.fillElements]
    | closed =>
      simp only [fillElements_closed, alike.defaulted]
      exact .guarded (fun _ => Iff.rfl) fun _ => ih apart empty (position + 1) .closed
    | next value rest =>
      simp only [fillElements_next]
      refine (alike.fill unfilled).trans fun next' fill => ih apart ?_ (position + 1) rest
      intro later member
      exact (alone later member value other next' fill).trans (empty later member)

/-- The drafts that an outline fills in are related. -/
theorem fill (agree : Agrees drafts related first second) (separate : second.Separate) (outline : Outline)
    {filled : σ} :
    first.fill outline = .ok filled ↔
      ∃ filled', second.fill outline = .ok filled' ∧ drafts filled filled' := by
  have start : ∀ {accepted : σ → Prop},
      (∃ draft, drafts draft second.draft ∧ accepted draft) ↔ accepted first.draft := by
    intro accepted
    simp only [agree.draft, exists_eq_left]
  cases outline with
  | object members => exact start.symm.trans (agree.fillMembers members _ filled)
  | array elements =>
    exact start.symm.trans (fillElements agree.fields separate.apart separate.empty 0 elements filled)
  | _ => exact ⟨nofun, nofun⟩

/-- **Records agree whose fields do.** -/
theorem decode (agree : Agrees drafts related first second) (separate : second.Separate) :
    Decoder.Agrees related first.decode second.decode := by
  intro outline value
  simp only [decode_eq_ok_iff]
  constructor
  · rintro ⟨draft, fill, finish⟩
    obtain ⟨other, fill', together⟩ := (agree.fill separate outline).mp fill
    obtain ⟨value', finish', alike⟩ := agree.finish.mp ⟨draft, together, finish⟩
    exact ⟨value', ⟨other, fill', finish'⟩, alike⟩
  · rintro ⟨value', ⟨other, fill', finish'⟩, alike⟩
    obtain ⟨draft, together, finish⟩ := agree.finish.mpr ⟨value', finish', alike⟩
    exact ⟨draft, (agree.fill separate outline).mpr ⟨other, fill', together⟩, finish⟩

end Agrees

end Shape

end Storefront.Json
