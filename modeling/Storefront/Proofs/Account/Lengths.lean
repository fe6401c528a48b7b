/-
**How long addresses are.**

The address in a wish is measured as it stands, and what is stored is what trimming leaves of it.  So the
length that is checked is not the length that is kept: between the two, the white space around the address
counts (`AccountCommand.Measured` against `AccountCommand.Fitting`).

Main statements:

* `AccountService.create_measured`, `AccountService.create_unmeasured`: which accounts are handed to a
  store;
* `AccountService.decidesAfterTrimming_iff`: where the white space around an address matters;
* `Machine.Registered.measured`: every address that is stored was measured before it was trimmed;
* `AccountService.lengths_before_trimming`: what becomes of addresses of all lengths.
-/

import Storefront.Proofs.Account.Records

namespace Storefront

open Storefront.Text

/-! ### Stores that keep a record -/

/-- A result, and the calls that a store has received before. -/
structure Recorded (α : Type) where
  calls : List StoreCall
  result : α

instance : Pure Recorded := ⟨fun result => ⟨[], result⟩⟩

instance : Functor Recorded := { map := fun f recorded => ⟨recorded.calls, f recorded.result⟩ }

/-- A store with some answers that keeps a record of what it is asked. -/
def AccountStore.recording (answers : AccountStore Id) : AccountStore Recorded where
  byId id := ⟨[.accountById id], answers.byId id⟩
  byEmail email := ⟨[.accountByEmail email], answers.byEmail email⟩
  create input := ⟨[.createAccount input], answers.create input⟩

/-! ### Measuring -/

namespace AccountCommand

/-- The name and the place, where they are given, are not too long. -/
structure Short (command : AccountCommand) : Prop where
  fullName : ∀ name ∈ command.fullName, name.length ≤ 200
  location : ∀ place ∈ command.location, place.length ≤ 200

/-- The address as it stands has between 3 and 320 characters, and not all of them are white space. -/
structure Measured (command : AccountCommand) : Prop where
  filled : isBlank command.email = false
  low : 3 ≤ command.email.length
  high : command.email.length ≤ 320

/-- What trimming leaves of the address has between 3 and 320 characters. -/
structure Fitting (command : AccountCommand) : Prop where
  low : 3 ≤ (trimmed command.email).length
  high : (trimmed command.email).length ≤ 320

/-- White space makes up for what is missing of the address. -/
structure FilledUp (command : AccountCommand) : Prop where
  visible : 0 < (trimmed command.email).length
  missing : (trimmed command.email).length < 3
  low : 3 ≤ command.email.length
  high : command.email.length ≤ 320

/-- White space is too much around an address that is not. -/
structure Overfull (command : AccountCommand) : Prop where
  low : 3 ≤ (trimmed command.email).length
  high : (trimmed command.email).length ≤ 320
  exceeds : 320 < command.email.length

variable {command : AccountCommand}

/-- Only the address can be of the wrong length then. -/
theorem lengthFaults_of_short (short : command.Short) :
    command.lengthFaults =
      if command.email.length < 3 ∨ 320 < command.email.length then [.email] else [] := by
  have fits : ∀ value : Option String, (∀ text ∈ value, text.length ≤ 200) →
      (value.any fun text => decide (200 < text.length)) = false := by
    intro value fits
    cases value with
    | none => rfl
    | some text => exact decide_eq_false (not_lt.mpr (fits text rfl))
  simp only [lengthFaults, fits _ short.fullName, fits _ short.location, Bool.or_eq_true,
    decide_eq_true_eq, Bool.false_eq_true, if_false, List.append_nil]

/-- Why a wish is rejected whose address is not measured. -/
def fault (command : AccountCommand) : Rejection :=
  if isBlank command.email then .blank "email" else .lengths [.email]

/-- A wish is accepted if its address is measured. -/
theorem check_of_measured (short : command.Short) (measured : command.Measured) :
    command.check = .ok () := by
  have faultless : command.lengthFaults = [] := by
    rw [lengthFaults_of_short short, if_neg]
    have := measured.low
    have := measured.high
    omega
  unfold check Rejection.requireText
  rw [faultless, measured.filled]
  rfl

theorem check_of_not_measured (short : command.Short) (unmeasured : ¬ command.Measured) :
    command.check = .error command.fault := by
  unfold check Rejection.requireText fault
  cases filled : isBlank command.email with
  | true => rfl
  | false =>
    have wrong : command.email.length < 3 ∨ 320 < command.email.length := by
      by_contra right
      exact unmeasured ⟨filled, by omega, by omega⟩
    rw [lengthFaults_of_short short, if_pos wrong]
    rfl

/-- A wish that is accepted has an address that is measured, however long its other texts are. -/
theorem measured_of_check (accepted : command.check = .ok ()) : command.Measured := by
  have filled := filled_of_check accepted
  unfold check Rejection.requireText at accepted
  rw [filled] at accepted
  cases faults : command.lengthFaults with
  | cons fault rest => rw [faults] at accepted; cases accepted
  | nil =>
    have right : ¬ (command.email.length < 3 ∨ 320 < command.email.length) := by
      intro wrong
      simp [lengthFaults, wrong] at faults
    exact ⟨filled, by omega, by omega⟩

/-! ### White space around an address -/

/-- **Where the white space around an address matters**: it makes up for what is missing of an address
that is too short, or it is too much around one that is not. -/
theorem measured_iff_fitting :
    (command.Measured ↔ command.Fitting) ↔ ¬ command.FilledUp ∧ ¬ command.Overfull := by
  have filled := isBlank_eq_false_iff command.email
  have shorter := length_trimmed_le command.email
  constructor
  · intro same
    refine ⟨fun short => ?_, fun overfull => ?_⟩
    · have fitting := same.mp ⟨filled.mpr short.visible, short.low, short.high⟩
      exact absurd fitting.low (not_le.mpr short.missing)
    · have measured := same.mpr ⟨overfull.low, overfull.high⟩
      exact absurd measured.high (not_le.mpr overfull.exceeds)
  · rintro ⟨unfilled, within⟩
    constructor
    · intro measured
      refine ⟨?_, shorter.trans measured.high⟩
      by_contra missing
      exact unfilled ⟨filled.mp measured.filled, not_le.mp missing, measured.low, measured.high⟩
    · intro fitting
      have := fitting.low
      refine ⟨filled.mpr (by omega), by omega, ?_⟩
      by_contra exceeds
      exact within ⟨fitting.low, fitting.high, not_le.mp exceeds⟩

/-- Without white space around the address, it does not matter. -/
theorem unspaced_of_trimmed (bare : trimmed command.email = command.email) :
    ¬ command.FilledUp ∧ ¬ command.Overfull := by
  constructor
  · intro short
    have := short.missing
    have := short.low
    rw [bare] at *
    omega
  · intro overfull
    have := overfull.high
    have := overfull.exceeds
    rw [bare] at *
    omega

end AccountCommand

/-! ### Making an account -/

namespace AccountService

variable {command : AccountCommand}

/-- An account is handed to the store if its address is measured. -/
theorem create_measured (answers : AccountStore Id) (short : command.Short)
    (measured : command.Measured) :
    create (.recording answers) command =
      ⟨[.createAccount (some command.toNew)],
        ServiceError.consult ("failed to create account: " ++ trimmed command.email)
          (answers.create (some command.toNew))⟩ := by
  unfold create
  rw [AccountCommand.check_of_measured short measured]
  rfl

/-- Otherwise the wish is rejected, and the store is not asked at all. -/
theorem create_unmeasured (answers : AccountStore Id) (short : command.Short)
    (unmeasured : ¬ command.Measured) :
    create (.recording answers) command = ⟨[], .error (.rejected command.fault)⟩ :=
  create_rejected (AccountCommand.check_of_not_measured short unmeasured)

/-- What is left of the address decides: an account is handed to the store if it has between 3 and 320
characters, and otherwise the wish is rejected and the store is not asked. -/
structure DecidesAfterTrimming (answers : AccountStore Id) (command : AccountCommand) : Prop where
  handed : command.Fitting → (create (.recording answers) command).calls =
    [.createAccount (some command.toNew)]
  rejected : ¬ command.Fitting →
    ∃ cause, create (.recording answers) command = ⟨[], .error (.rejected cause)⟩

/-- It does unless the white space around the address matters. -/
theorem decidesAfterTrimming_iff (answers : AccountStore Id) (short : command.Short) :
    DecidesAfterTrimming answers command ↔ ¬ command.FilledUp ∧ ¬ command.Overfull := by
  rw [← AccountCommand.measured_iff_fitting]
  constructor
  · intro decides
    by_cases measured : command.Measured
    · -- A store that has been asked shows that the wish was not rejected.
      refine iff_of_true measured (by_contra fun unfit => ?_)
      obtain ⟨cause, refused⟩ := decides.rejected unfit
      rw [create_measured answers short measured] at refused
      cases refused
    · refine iff_of_false measured fun fitting => ?_
      have handed := decides.handed fitting
      rw [create_unmeasured answers short measured] at handed
      cases handed
  · intro same
    exact {
      handed := fun fitting => congrArg Recorded.calls (create_measured answers short (same.mpr fitting))
      rejected := fun unfit =>
        ⟨_, create_unmeasured answers short fun measured => unfit (same.mp measured)⟩ }

end AccountService

/-! ### Addresses that are stored -/

/-- Every address in the table is what trimming leaves of one that was wished for and measured. -/
def Tables.EmailsMeasured (tables : Tables) (history : List Registration) : Prop :=
  ∀ row ∈ tables.accounts, ∃ wish ∈ history, wish.command.Measured ∧
    row.get "email" = .text (trimmed wish.command.email)

section Runs

variable {history : List Registration} {tables : Tables} {environment : Environment} {before : Machine}
  {command : AccountCommand} {ending : Ending (Except ServiceError Account)}

/-- One wish stores no other address. -/
theorem Tables.EmailsMeasured.wish (stored : before.tables.EmailsMeasured history)
    (registers : before.Registers environment command Ending.CutShort tables ending) :
    tables.EmailsMeasured (history ++ [⟨command, ending⟩]) := by
  have earlier : before.tables.EmailsMeasured (history ++ [⟨command, ending⟩]) := by
    intro row member
    obtain ⟨wish, past, kept⟩ := stored row member
    exact ⟨wish, List.mem_append_left _ past, kept⟩
  -- Only a wish that is accepted adds a row.
  cases registers with
  | created accepted storable fits heard =>
    intro row member
    obtain past | added := List.mem_append.mp member
    · exact earlier row past
    · obtain rfl := List.mem_singleton.mp added
      refine ⟨_, List.mem_append_right _ (List.mem_singleton_self _),
        AccountCommand.measured_of_check accepted, ?_⟩
      exact congrArg Cell.text (before.draft_email environment command)
  | _ => exact earlier

/-- **Every address that is stored was measured before it was trimmed**, whatever is done besides making
accounts. -/
theorem Machine.Registered.measured [Collation] {start now : Machine}
    (nothing : start.tables.accounts = [])
    (run : start.Registered history now) : now.tables.EmailsMeasured history := by
  refine run.keeps (P := fun history tables => tables.EmailsMeasured history) ?_
    Tables.EmailsMeasured.wish ?_
  · intro row member
    rw [nothing] at member
    cases member
  · intro history earlier later stored same row member
    exact stored row (same ▸ member)

/-- An address that is stored has 1 to 320 characters, and at least 3 if white space has never made up for
what was missing. -/
theorem Tables.EmailsMeasured.lengths (stored : tables.EmailsMeasured history) :
    ∀ row ∈ tables.accounts, ∃ email, row.get "email" = .text email ∧ trimmed email = email ∧
      1 ≤ email.length ∧ email.length ≤ 320 ∧
        ((∀ wish ∈ history, ¬ wish.command.FilledUp) → 3 ≤ email.length) := by
  intro row member
  obtain ⟨wish, past, measured, kept⟩ := stored row member
  have visible := (isBlank_eq_false_iff _).mp measured.filled
  have shorter := length_trimmed_le wish.command.email
  refine ⟨_, kept, trimmed_trimmed _, visible, shorter.trans measured.high, fun unfilled => ?_⟩
  by_contra missing
  exact unfilled wish past ⟨visible, not_le.mp missing, measured.low, measured.high⟩

end Runs

/-- **Addresses are measured before they are trimmed.**  An account is handed to the store if the address
as it stands has 3 to 320 characters and is not blank; otherwise the wish is rejected and the store is not
asked.  What is left of the address decides exactly where white space neither makes up for what is missing
nor is too much, so at least where there is none around it.  Every address that is stored has 1 to 320
characters. -/
theorem AccountService.lengths_before_trimming [Collation] (answers : AccountStore Id)
    (command : AccountCommand) (short : command.Short) :
    (command.Measured → create (.recording answers) command =
      ⟨[.createAccount (some command.toNew)],
        ServiceError.consult ("failed to create account: " ++ trimmed command.email)
          (answers.create (some command.toNew))⟩) ∧
    (¬ command.Measured →
      create (.recording answers) command = ⟨[], .error (.rejected command.fault)⟩) ∧
    (DecidesAfterTrimming answers command ↔ ¬ command.FilledUp ∧ ¬ command.Overfull) ∧
    (trimmed command.email = command.email → DecidesAfterTrimming answers command) ∧
    ∀ (start now : Machine) (history : List Registration),
      start.tables.accounts = [] → start.Registered history now →
        ∀ row ∈ now.tables.accounts, ∃ email, row.get "email" = .text email ∧ trimmed email = email ∧
          1 ≤ email.length ∧ email.length ≤ 320 ∧
            ((∀ wish ∈ history, ¬ wish.command.FilledUp) → 3 ≤ email.length) :=
  ⟨create_measured answers short, create_unmeasured answers short, decidesAfterTrimming_iff answers short,
    fun bare => (decidesAfterTrimming_iff answers short).mpr (AccountCommand.unspaced_of_trimmed bare),
    fun _ _ _ nothing run => (run.measured nothing).lengths⟩

/-- A store without accounts that keeps every account it is handed. -/
def AccountStore.vacant : AccountStore Id where
  byId id := .error (.notFound "Account" id.text)
  byEmail email := .error (.notFound "Account" email)
  create
    | none => .error .nilEntity
    | some input => .ok (.register input (.numbered 1) ⟨0⟩)

/-- A wish with an address of one letter and white space around it. -/
def AccountCommand.letter : AccountCommand := ⟨" a ", none, none, none, none⟩

/-- A wish with an address of so many letters and a space behind it. -/
def AccountCommand.letters (count : Nat) : AccountCommand :=
  ⟨String.ofList (List.replicate count 'x' ++ [' ']), none, none, none, none⟩

theorem AccountCommand.Short.of_absent {command : AccountCommand} (name : command.fullName = none)
    (place : command.location = none) : command.Short where
  fullName := by rw [name]; exact fun _ => nofun
  location := by rw [place]; exact fun _ => nofun

theorem AccountCommand.length_letters (count : Nat) : (letters count).email.length = count + 1 := by
  rw [letters, String.length_ofList, List.length_append, List.length_replicate, List.length_singleton]

theorem AccountCommand.length_trimmed_letters (count : Nat) :
    (trimmed (letters count).email).length = count := by
  have visible : Visible (List.replicate count 'x') := fun c member => by
    rw [List.eq_of_mem_replicate member]
    rfl
  have padded : Padded (List.replicate count 'x') (List.replicate count 'x' ++ [' ']) :=
    (Padded.refl _).after (by decide)
  rw [letters, trimmed, String.toList_ofList, trim_of_padded padded visible.tight, String.length_ofList,
    List.length_replicate]

/-- With the space there is one character too many. -/
theorem AccountCommand.not_measured_letters : ¬ (letters 320).Measured := fun measured =>
  absurd measured.high (by rw [length_letters]; decide)

theorem AccountCommand.fault_letters : (letters 320).fault = .lengths [.email] := by
  have filled := (isBlank_eq_false_iff (letters 320).email).mpr (by rw [length_trimmed_letters]; decide)
  rw [fault, filled]
  rfl

/-- A wish that is accepted, one that is rejected, and the address that is stored for the first one. -/
theorem AccountService.lengths_before_trimming_sample :
    (create (.recording .vacant) .letter).calls = [.createAccount (some AccountCommand.letter.toNew)] ∧
      create (.recording .vacant) (.letters 320) = ⟨[], .error (.rejected (.lengths [.email]))⟩ ∧
      ∃ history, Machine.Registered {} history
          (({} : Machine).register .sample none none .letter).1 ∧
        (({} : Machine).register .sample none none .letter).1.tables.accounts.length = 1 ∧
        ∀ row ∈ (({} : Machine).register .sample none none .letter).1.tables.accounts,
          ∃ email, row.get "email" = .text email ∧ 1 ≤ email.length ∧ email.length ≤ 320 := by
  obtain ⟨accepts, -, -, -, stored⟩ := lengths_before_trimming .vacant .letter (.of_absent rfl rfl)
  obtain ⟨-, rejects, -⟩ := lengths_before_trimming .vacant (.letters 320) (.of_absent rfl rfl)
  have measured : AccountCommand.letter.Measured := ⟨by decide +kernel, by decide, by decide⟩
  have refused := rejects AccountCommand.not_measured_letters
  rw [AccountCommand.fault_letters] at refused
  have run : Machine.Registered {} _ (({} : Machine).register .sample none none .letter).1 :=
    .called .start .sample none none .letter
  refine ⟨congrArg Recorded.calls (accepts measured), refused, _, run, by decide +kernel, ?_⟩
  intro row member
  obtain ⟨email, kept, -, low, high, -⟩ := stored _ _ _ rfl run row member
  exact ⟨email, kept, low, high⟩

/-- **The length after trimming is not what decides.**  An account with an address of one letter is handed
to the store, and it is stored; a wish is rejected though trimming leaves 320 letters of its address. -/
theorem AccountService.lengths_after_trimming_differ :
    AccountCommand.letter.Short ∧ ¬ AccountCommand.letter.Fitting ∧
      (create (.recording .vacant) .letter).calls = [.createAccount (some AccountCommand.letter.toNew)] ∧
      (({} : Machine).register .sample none none .letter).1.tables.accounts.map
        (fun row => row.get "email") = [.text "a"] ∧
      (AccountCommand.letters 320).Short ∧ (AccountCommand.letters 320).Fitting ∧
      create (.recording .vacant) (.letters 320) = ⟨[], .error (.rejected (.lengths [.email]))⟩ := by
  have measured : AccountCommand.letter.Measured := ⟨by decide +kernel, by decide, by decide⟩
  have length : (trimmed (AccountCommand.letters 320).email).length = 320 :=
    AccountCommand.length_trimmed_letters 320
  have handed := create_measured .vacant (.of_absent rfl rfl) measured
  have refused := create_unmeasured .vacant (.of_absent rfl rfl) AccountCommand.not_measured_letters
  rw [AccountCommand.fault_letters] at refused
  exact ⟨.of_absent rfl rfl, fun fitting => absurd fitting.low (by decide +kernel),
    congrArg Recorded.calls handed, by decide +kernel, .of_absent rfl rfl, ⟨by omega, by omega⟩, refused⟩

end Storefront
