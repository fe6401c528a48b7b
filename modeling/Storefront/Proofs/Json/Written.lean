/-
**What is written is read.**

A value is written as text by `Value.chars`, and text is read as an outline by `Outline.scan`.
`Value.outline` is the outline of what has been written; it is read from the text whatever follows, as
long as that does not go on with a numeral.  Doubles are left out, and integers have at most sixty-four
bits.

Main statements:

* `Outline.scanNumber_signed`: an integer is read as it is written;
* `Outline.scanValue_chars`: a value is read as it is written, with anything behind it;
* `read_chars`: so a written value decodes as its outline does.
-/

import Storefront.Json.Decode
import Storefront.Json.Value

namespace Storefront.Json

open Storefront.Text

/-! ### Integers -/

namespace Numeral

/-- Nothing that could belong to a numeral comes first. -/
def Ends (symbols : List Symbol) : Prop :=
  ∀ c, symbols.head? = some (some c) → c.isDigit = false ∧ c ≠ '.' ∧ c ≠ 'e' ∧ c ≠ 'E'

/-- The value of a digit. -/
def digitValue (c : Char) : Nat := c.toNat - '0'.toNat

theorem digitOf?_of_isDigit {c : Char} (digit : c.isDigit = true) :
    digitOf? (some c) = some (digitValue c) := by
  rw [digitOf?, Option.bind_some, digit?, if_pos digit]
  rfl

/-- Digits are read up to where no digit follows. -/
theorem digitRun_map_some {cs : List Char} (digits : ∀ c ∈ cs, c.isDigit = true) {rest : List Symbol}
    (ends : Ends rest) : digitRun (cs.map some ++ rest) = (cs.map digitValue, rest) := by
  have noDigit : ∀ symbol ∈ rest.head?, (digitOf? symbol).isSome = false := by
    intro symbol first
    cases symbol with
    | none => rfl
    | some c =>
      rw [digitOf?, Option.bind_some, digit?, (ends c first).1]
      rfl
  induction cs with
  | nil =>
    cases rest with
    | nil => rfl
    | cons symbol rest =>
      rw [digitRun, List.map_nil, List.nil_append, List.takeWhile_cons_of_neg, List.dropWhile_cons_of_neg]
      · rfl
      · simp [noDigit symbol rfl]
      · simp [noDigit symbol rfl]
  | cons c cs ih =>
    have first : digitOf? (some c) = some (digitValue c) :=
      digitOf?_of_isDigit (digits c List.mem_cons_self)
    have others := ih fun c member => digits c (List.mem_cons_of_mem _ member)
    rw [digitRun, Prod.mk.injEq] at others ⊢
    rw [List.map_cons, List.cons_append, List.takeWhile_cons, List.dropWhile_cons, first]
    exact ⟨(List.filterMap_cons_some first).trans (congrArg _ others.1), others.2⟩

theorem isDigit_of_mem_digits {n : Nat} {c : Char} (member : c ∈ digits n) : c.isDigit = true :=
  Nat.isDigit_of_mem_toDigits (by decide) (by decide) member

/-- The digits of a number spell it. -/
theorem foldl_digits (n : Nat) :
    ((digits n).map digitValue).foldl (fun n digit => n * 10 + digit) 0 = n := by
  rw [List.foldl_map]
  have spelled : Nat.ofDigitChars 10 (digits n) 0 = n := Nat.ofDigitChars_toDigits (by decide) (by decide)
  unfold Nat.ofDigitChars at spelled
  simp only [Nat.mul_comm 10] at spelled
  exact spelled

/-- There is no zero in front of other digits. -/
theorem head_digits {n : Nat} (positive : 0 < n) : ∀ c ∈ (digits n).head?, digitValue c ≠ 0 := by
  induction n using Nat.strongRecOn with
  | _ n ih =>
    by_cases small : n < 10
    · have single : ∀ n < 10, 0 < n → digitValue n.digitChar ≠ 0 := by decide
      rw [digits, Nat.toDigits_of_lt_base small]
      rintro _ ⟨⟩
      exact single n small positive
    · have joined : digits (n / 10) ++ digits (n % 10) = digits n := by
        have appended : Nat.toDigits 10 (n / 10) ++ Nat.toDigits 10 (n % 10) =
            Nat.toDigits 10 (10 * (n / 10) + n % 10) :=
          Nat.toDigits_append_toDigits (by decide) (by omega) (by omega)
        rwa [Nat.div_add_mod] at appended
      have rest := ih (n / 10) (by omega) (by omega)
      cases front : digits (n / 10) with
      | nil => exact absurd front Nat.toDigits_ne_nil
      | cons c cs =>
        rw [front] at joined rest
        rw [← joined]
        exact rest

/-- The whole part of a numeral is read as it is written. -/
theorem readWhole?_digits (n : Nat) {rest : List Symbol} (ends : Ends rest) :
    readWhole? ((digits n).map some ++ rest) = some ((digits n).map digitValue, rest) := by
  have run : digitRun ((digits n).map some ++ rest) = ((digits n).map digitValue, rest) :=
    digitRun_map_some (fun _ => isDigit_of_mem_digits) ends
  unfold readWhole?
  rw [run]
  cases spelled : digits n with
  | nil => exact absurd spelled Nat.toDigits_ne_nil
  | cons c cs =>
    cases cs with
    | nil => rw [List.map_cons, List.map_nil]; split <;> simp_all
    | cons d ds =>
      have positive : 0 < n := by
        refine Nat.pos_of_ne_zero ?_
        rintro rfl
        cases spelled
      have leading : digitValue c ≠ 0 := head_digits positive c (by rw [spelled]; rfl)
      split <;> simp_all

/-- So is a numeral without a point and without an exponent. -/
theorem readUnsigned?_digits (negative : Bool) (n : Nat) {rest : List Symbol} (ends : Ends rest) :
    readUnsigned? negative ((digits n).map some ++ rest) =
      some (⟨negative, (digits n).map digitValue, [], none⟩, rest) := by
  have fraction : readFraction? rest = some ([], rest) := by
    unfold readFraction?
    split
    · exact absurd rfl (ends '.' rfl).2.1
    · rfl
  have exponent : readExponent? rest = some (none, rest) := by
    unfold readExponent?
    split
    · exact absurd rfl (ends 'e' rfl).2.2.1
    · exact absurd rfl (ends 'E' rfl).2.2.2
    · rfl
  unfold readUnsigned?
  rw [readWhole?_digits n ends]
  simp [fraction, exponent]

/-- A numeral of digits is the number that they spell. -/
theorem number_digits {n : Nat} (small : n < twoTo 64) :
    number ⟨false, (digits n).map digitValue, [], none⟩ = .integer n := by
  have appended : append 0 ((digits n).map digitValue) = (n, []) := by
    rw [append_fits (by rwa [foldl_digits]), foldl_digits]
  unfold number
  rw [appended]
  rfl

theorem number_negative_digits {n : Nat} (positive : 0 < n) (small : n ≤ twoTo 63) :
    number ⟨true, (digits n).map digitValue, [], none⟩ = .integer (-n) := by
  have less : twoTo 63 < twoTo 64 := by decide
  have appended : append 0 ((digits n).map digitValue) = (n, []) := by
    rw [append_fits (by rw [foldl_digits]; omega), foldl_digits]
  unfold number
  rw [appended]
  simp
  omega

end Numeral

/-- **An integer is read as it is written.** -/
theorem Outline.scanNumber_signed {n : Int} (lowest : -(twoTo 63 : Int) ≤ n) (highest : n < twoTo 64)
    {rest : List Symbol} (ends : Numeral.Ends rest) :
    scanNumber ((signed n).map some ++ rest) = (.number (.integer n), rest) := by
  unfold scanNumber signed
  by_cases negative : n < 0
  · rw [if_pos negative, List.map_cons, List.cons_append, Numeral.read?,
      Numeral.readUnsigned?_digits true _ ends]
    dsimp only
    rw [Numeral.number_negative_digits (by omega) (by omega)]
    congr 3
    omega
  · have unsigned : Numeral.read? ((digits n.natAbs).map some ++ rest) =
        Numeral.readUnsigned? false ((digits n.natAbs).map some ++ rest) := by
      unfold Numeral.read?
      split
      · next first =>
        cases spelled : digits n.natAbs with
        | nil => exact absurd spelled Nat.toDigits_ne_nil
        | cons c cs =>
          rw [spelled] at first
          have digit : c.isDigit = true :=
            Numeral.isDigit_of_mem_digits (spelled ▸ List.mem_cons_self)
          simp only [List.map_cons, List.cons_append, List.cons.injEq, Option.some.injEq] at first
          rw [first.1] at digit
          cases digit
      · rfl
    rw [if_neg negative, unsigned, Numeral.readUnsigned?_digits false _ ends]
    dsimp only
    rw [Numeral.number_digits (by omega)]
    congr 3
    omega

/-! ### Values -/

namespace Value

mutual

/-- The outline of a value that has been written. -/
def outline : Value → Outline
  | .null => .null
  | .boolean value => .boolean value
  | .integer n => .number (.integer n)
  | .real x => if x.isFinite then .number (.real x) else .null
  | .text s => .text (some s)
  | .array elements => .array (elementOutlines elements)
  | .object members => .object (memberOutlines members)
termination_by structural value => value

/-- The outlines of the elements of a list. -/
def elementOutlines : List Value → Elements
  | [] => .closed
  | value :: rest => .next value.outline (elementOutlines rest)
termination_by structural values => values

/-- The outline of a member and the ones behind it. -/
def memberOutline : String × Value → Members → Members
  | (name, value), rest => .next (.text (some name)) value.outline rest
termination_by structural member => member

/-- The outlines of the members of an object. -/
def memberOutlines : List (String × Value) → Members
  | [] => .closed
  | member :: rest => memberOutline member (memberOutlines rest)
termination_by structural members => members

end

mutual

/-- Does the value consist of texts, integers of at most sixty-four bits and the like, without doubles? -/
def Exact : Value → Prop
  | .null | .boolean _ | .text _ => True
  | .integer n => -(twoTo 63 : Int) ≤ n ∧ n < twoTo 64
  | .real _ => False
  | .array elements => ExactElements elements
  | .object members => ExactMembers members
termination_by structural value => value

/-- Every element is written exactly. -/
def ExactElements : List Value → Prop
  | [] => True
  | value :: rest => value.Exact ∧ ExactElements rest
termination_by structural values => values

/-- The value of a member is written exactly. -/
def ExactMember : String × Value → Prop
  | (_, value) => value.Exact
termination_by structural member => member

/-- Every member is written exactly. -/
def ExactMembers : List (String × Value) → Prop
  | [] => True
  | member :: rest => ExactMember member ∧ ExactMembers rest
termination_by structural members => members

end

/-- A value begins with a symbol that is no space and closes nothing. -/
theorem exists_cons_chars {value : Value} (exact : value.Exact) : ∃ c cs, value.chars = c :: cs ∧
    Outline.isBetween (some c) = false ∧ c ≠ ']' ∧ c ≠ '\x7d' := by
  cases value with
  | null => exact ⟨'n', _, rfl, by decide⟩
  | boolean value => cases value <;> exact ⟨_, _, rfl, by decide⟩
  | integer n =>
    rw [chars, signed]
    split
    · exact ⟨'-', _, rfl, by decide⟩
    · cases spelled : digits n.natAbs with
      | nil => exact absurd spelled Nat.toDigits_ne_nil
      | cons c cs =>
        have digit : c.isDigit = true := Numeral.isDigit_of_mem_digits (spelled ▸ List.mem_cons_self)
        have other : ∀ d : Char, d.isDigit = false → c ≠ d := by
          rintro d letter rfl
          rw [letter] at digit
          cases digit
        refine ⟨c, cs, rfl, ?_, other ']' (by decide), other '\x7d' (by decide)⟩
        simp [Outline.isBetween, other]
  | real x => exact exact.elim
  | text s => exact ⟨'"', _, rfl, by decide⟩
  | array elements => cases elements <;> exact ⟨'[', _, rfl, by decide⟩
  | object members => cases members <;> exact ⟨'\x7b', _, rfl, by decide⟩

end Value

namespace Outline

/-! ### Reading -/

theorem skip_cons {c : Char} (meaning : isBetween (some c) = false) (rest : List Symbol) :
    skip (some c :: rest) = some c :: rest :=
  List.dropWhile_cons_of_neg (by simp [meaning])

/-- A literal is read as it is written. -/
theorem scanValue_literal (fuel : Nat) (s : String) (rest : List Symbol) :
    scanValue (fuel + 1) ((Literal.chars s.toList).map some ++ rest) = (.text (some s), rest) := by
  have literal : (Literal.chars s.toList).map some ++ rest =
      some '"' :: ((Literal.escape s.toList).map some ++ some '"' :: rest) := by
    simp [Literal.chars]
  rw [literal, scanValue, skip_cons (by decide)]
  change scanText _ = _
  unfold scanText
  rw [Literal.read_escape]

/-- A numeral is read where a value is wanted. -/
theorem scanValue_signed (fuel : Nat) (n : Int) (rest : List Symbol) :
    scanValue (fuel + 1) ((signed n).map some ++ rest) = scanNumber ((signed n).map some ++ rest) := by
  have first : ∃ c cs, signed n = c :: cs ∧ (c.isDigit = true ∨ c = '-') := by
    unfold signed
    split
    · exact ⟨'-', _, rfl, .inr rfl⟩
    · cases spelled : digits n.natAbs with
      | nil => exact absurd spelled Nat.toDigits_ne_nil
      | cons c cs =>
        exact ⟨c, cs, rfl, .inl (Numeral.isDigit_of_mem_digits (spelled ▸ List.mem_cons_self))⟩
  obtain ⟨c, cs, same, numeral⟩ := first
  have other : ∀ d : Char, d.isDigit = false → d ≠ '-' → c ≠ d := by
    rintro d letter minus rfl
    rcases numeral with digit | rfl
    · rw [letter] at digit
      cases digit
    · exact minus rfl
  have meaning : isBetween (some c) = false := by simp [isBetween, other]
  have clash : ∀ {d : Char} {symbols others : List Symbol}, some c :: symbols = some d :: others →
      d.isDigit = false → d ≠ '-' → False :=
    fun found letter minus => other _ letter minus (Option.some.inj (List.cons.inj found).1)
  rw [same, List.map_cons, List.cons_append, scanValue, skip_cons meaning]
  split
  case h_7 => rfl
  all_goals exact (clash ‹_› (by decide) (by decide)).elim

/-- A list with an element in it. -/
theorem scanValue_list (fuel : Nat) {c : Char} (meaning : isBetween (some c) = false) (other : c ≠ ']')
    (symbols : List Symbol) :
    scanValue (fuel + 1) (some '[' :: some c :: symbols) =
      (.array (scanElements fuel (some c :: symbols)).1, (scanElements fuel (some c :: symbols)).2) := by
  simp only [scanValue, skip_cons meaning, skip_cons (rfl : isBetween (some '[') = false)]
  split
  · next found => exact absurd (Option.some.inj (List.cons.inj found).1) other
  · rfl

/-- An object with a member in it. -/
theorem scanValue_record (fuel : Nat) (symbols : List Symbol) :
    scanValue (fuel + 1) (some '\x7b' :: some '"' :: symbols) =
      (.object (scanMembers fuel (some '"' :: symbols)).1, (scanMembers fuel (some '"' :: symbols)).2) :=
  rfl

/-- What stands behind a value is no part of a numeral. -/
theorem ends_of_closing {c : Char} (closing : c = ',' ∨ c = ']' ∨ c = '\x7d') (rest : List Symbol) :
    Numeral.Ends (some c :: rest) := by
  rintro _ ⟨⟩
  rcases closing with rfl | rfl | rfl <;> decide

theorem length_chars_pos {value : Value} (exact : value.Exact) : 0 < value.chars.length := by
  obtain ⟨c, cs, same, _⟩ := Value.exists_cons_chars exact
  rw [same]
  exact Nat.succ_pos _

theorem exists_cons_memberChars (member : String × Value) :
    ∃ cs, Value.memberChars member = '"' :: cs := by
  obtain ⟨name, value⟩ := member
  exact ⟨_, by rw [Value.memberChars, Literal.chars, List.cons_append]⟩

/-- How an element, or a member, goes on is decided by what stands behind it. -/
theorem scanElements_of_value {fuel : Nat} {value : Outline} {symbols rest : List Symbol} {c : Char}
    (read : scanValue fuel symbols = (value, some c :: rest)) (closing : c = ',' ∨ c = ']') :
    scanElements (fuel + 1) symbols =
      if c = ']' then (.next value .closed, rest)
      else (.next value (scanElements fuel rest).1, (scanElements fuel rest).2) := by
  rw [scanElements, read]
  rcases closing with rfl | rfl <;> rfl

theorem scanMembers_of_value {fuel : Nat} {name : String} {value : Outline}
    {symbols between rest : List Symbol} {c : Char}
    (named : scanValue fuel symbols = (.text (some name), some ':' :: between))
    (read : scanValue fuel between = (value, some c :: rest)) (closing : c = ',' ∨ c = '\x7d') :
    scanMembers (fuel + 1) symbols =
      if c = '\x7d' then (.next (.text (some name)) value .closed, rest)
      else (.next (.text (some name)) value (scanMembers fuel rest).1, (scanMembers fuel rest).2) := by
  simp only [scanMembers, named, skip_cons (rfl : isBetween (some ':') = false), read]
  rcases closing with rfl | rfl <;> rfl

mutual

/-- **A value is read as it is written**, with anything behind it. -/
theorem scanValue_chars (value : Value) (exact : value.Exact) (fuel : Nat)
    (enough : 2 * value.chars.length ≤ fuel) (rest : List Symbol) (ends : Numeral.Ends rest) :
    scanValue fuel (value.chars.map some ++ rest) = (value.outline, rest) := by
  -- A level of brackets takes two steps, one for the value and one for the list, and has two characters.
  have longer := length_chars_pos exact
  obtain ⟨fuel, rfl⟩ : ∃ less, fuel = less + 1 := ⟨fuel - 1, by omega⟩
  cases value with
  | null => rfl
  | boolean value => cases value <;> rfl
  | integer n =>
    rw [Value.chars, scanValue_signed, scanNumber_signed exact.1 exact.2 ends]
    rfl
  | real x => exact exact.elim
  | text s => exact scanValue_literal fuel s rest
  | array elements =>
    cases elements with
    | nil => rfl
    | cons first others =>
      obtain ⟨c, cs, same, meaning, other, _⟩ := Value.exists_cons_chars exact.1
      rw [Value.chars, List.length_cons] at enough
      have read := scanElements_chars first others exact.1 exact.2 fuel (by omega) rest
      rw [same, List.cons_append, List.map_cons, List.cons_append] at read
      rw [Value.chars, same, List.cons_append, List.map_cons, List.map_cons, List.cons_append,
        List.cons_append, scanValue_list fuel meaning other, read]
      rfl
  | object members =>
    cases members with
    | nil => rfl
    | cons first others =>
      obtain ⟨cs, same⟩ := exists_cons_memberChars first
      rw [Value.chars, List.length_cons] at enough
      have read := scanMembers_chars first others exact.1 exact.2 fuel (by omega) rest
      rw [same, List.cons_append, List.map_cons, List.cons_append] at read
      rw [Value.chars, same, List.cons_append, List.map_cons, List.map_cons, List.cons_append,
        List.cons_append, scanValue_record, read]
      rfl
termination_by sizeOf value

/-- So are elements, of which there has to be one. -/
theorem scanElements_chars (first : Value) (others : List Value) (exact : first.Exact)
    (exact' : Value.ExactElements others) (fuel : Nat)
    (enough : 2 * (first.chars ++ Value.elementChars others).length + 1 ≤ fuel) (rest : List Symbol) :
    scanElements fuel ((first.chars ++ Value.elementChars others).map some ++ rest) =
      (Value.elementOutlines (first :: others), rest) := by
  have longer := length_chars_pos exact
  obtain ⟨fuel, rfl⟩ : ∃ less, fuel = less + 1 := ⟨fuel - 1, by omega⟩
  rw [List.length_append] at enough
  cases others with
  | nil =>
    have read := scanValue_chars first exact fuel (by omega) (some ']' :: rest)
      (ends_of_closing (.inr (.inl rfl)) rest)
    rw [Value.elementChars, List.map_append, List.append_assoc, List.map_singleton, List.singleton_append,
      scanElements_of_value read (.inr rfl), if_pos rfl]
    rfl
  | cons second more =>
    rw [Value.elementChars, List.length_cons] at enough
    have read := scanValue_chars first exact fuel (by omega)
      (some ',' :: ((second.chars ++ Value.elementChars more).map some ++ rest))
      (ends_of_closing (.inl rfl) _)
    have following := scanElements_chars second more exact'.1 exact'.2 fuel (by omega) rest
    rw [Value.elementChars, List.map_append, List.append_assoc, List.map_cons, List.cons_append,
      scanElements_of_value read (.inl rfl), if_neg (by decide), following]
    rfl
termination_by sizeOf first + sizeOf others

/-- So are members. -/
theorem scanMembers_chars (first : String × Value) (others : List (String × Value))
    (exact : Value.ExactMember first) (exact' : Value.ExactMembers others) (fuel : Nat)
    (enough : 2 * (Value.memberChars first ++ Value.membersChars others).length + 1 ≤ fuel)
    (rest : List Symbol) :
    scanMembers fuel ((Value.memberChars first ++ Value.membersChars others).map some ++ rest) =
      (Value.memberOutlines (first :: others), rest) := by
  cases first with
  | mk name value =>
    have size : (Value.memberChars (name, value)).length =
        (Literal.chars name.toList).length + 1 + value.chars.length := by
      rw [Value.memberChars, List.length_append, List.length_cons]
      omega
    obtain ⟨fuel, rfl⟩ : ∃ less, fuel = less + 2 := ⟨fuel - 2, by
      rw [List.length_append, size] at enough
      omega⟩
    rw [List.length_append, size] at enough
    have named : ∀ symbols : List Symbol, scanValue (fuel + 1)
        ((Value.memberChars (name, value)).map some ++ symbols) =
          (.text (some name), some ':' :: (value.chars.map some ++ symbols)) := by
      intro symbols
      rw [Value.memberChars, List.map_append, List.append_assoc, scanValue_literal]
      rfl
    cases others with
    | nil =>
      have read := scanValue_chars value exact (fuel + 1) (by omega) (some '\x7d' :: rest)
        (ends_of_closing (.inr (.inr rfl)) rest)
      rw [Value.membersChars, List.map_append, List.append_assoc, List.map_singleton, List.singleton_append,
        scanMembers_of_value (named _) read (.inr rfl), if_pos rfl]
      rfl
    | cons second more =>
      rw [Value.membersChars, List.length_cons] at enough
      have read := scanValue_chars value exact (fuel + 1) (by omega)
        (some ',' :: ((Value.memberChars second ++ Value.membersChars more).map some ++ rest))
        (ends_of_closing (.inl rfl) _)
      have following := scanMembers_chars second more exact'.1 exact'.2 (fuel + 1) (by omega) rest
      rw [Value.membersChars, List.map_append, List.append_assoc, List.map_cons, List.cons_append,
        scanMembers_of_value (named _) read (.inl rfl), if_neg (by decide), following]
      rfl
termination_by sizeOf first + sizeOf others

end

/-- A written value is a whole text. -/
theorem scan_chars {value : Value} (exact : value.Exact) :
    scan (value.chars.map some) = (value.outline, []) := by
  have read := scanValue_chars value exact (2 * (value.chars.map some).length + 2)
    (by rw [List.length_map]; omega) [] nofun
  rwa [List.append_nil] at read

end Outline

/-- **A written value decodes as its outline does.** -/
theorem read_chars {α : Type} {decode : Decoder α} {value : Value} (exact : value.Exact) :
    read decode (value.chars.map some) = decode value.outline := by
  rw [read, Outline.scan_chars exact]
  cases decoded : decode value.outline with
  | error cause => simp [decoded, bind, Except.bind]
  | ok result => simp [decoded, bind, Except.bind, Outline.skip, pure, Except.pure]

/-- The elements of a written list are complete. -/
theorem Value.toList?_elementOutlines (values : List Value) :
    (elementOutlines values).toList? = some (values.map outline) := by
  induction values with
  | nil => rw [elementOutlines, Elements.toList?, List.map_nil]
  | cons value rest ih => rw [elementOutlines, Elements.toList?, ih, Option.map_some, List.map_cons]

theorem Value.exactElements_of_forall {values : List Value} (exact : ∀ value ∈ values, value.Exact) :
    ExactElements values := by
  induction values with
  | nil => exact trivial
  | cons value rest ih =>
    obtain ⟨first, others⟩ := List.forall_mem_cons.mp exact
    exact ⟨first, ih others⟩

/-! ### Optional values -/

section Optional

variable {α : Type} {encode : α → Value} {value : Option α}

theorem Value.exact_optional (exact : ∀ given ∈ value, (encode given).Exact) :
    (Value.optional encode value).Exact := by
  cases value with
  | none => exact trivial
  | some given => exact exact given rfl

/-- What may be absent is read as it is written, if null is written for nothing else. -/
theorem Decoder.optional_outline {decode : Decoder α}
    (present : ∀ given ∈ value, (encode given).outline ≠ .null)
    (reads : ∀ given ∈ value, decode (encode given).outline = .ok given) :
    Decoder.optional decode (Value.optional encode value).outline = .ok value := by
  cases value with
  | none => rfl
  | some given =>
    rw [Value.optional, Decoder.optional, reads given rfl]
    · rfl
    · exact present given rfl

end Optional

end Storefront.Json
