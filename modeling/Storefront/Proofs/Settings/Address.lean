/-
**What the address of a database tells.**

An address is assembled from a user, a password, a host and a name.  They stand in it as they are, with the
marks `:`, `@` and `/` between them.  A host has none of the last two marks, but nothing keeps marks out of
the other three texts, so one address may come from different settings: what stands before a mark for one of
them stands behind it for the other.

Two ways to read an address differ in which host they find or in which colon ends the user
(`Access.cases_of_url_eq`).  An `Access` is *plain* if its user has no colon and its name has no host in
it: then the last host and the first colon are the right ones, and every address is that of exactly one
plain access.  If its password has neither of them, too, its address is that of no other access at all.

Main statements:

* `Access.Plain.eq_of_url`, `Access.exists_plain`: every address is that of one plain access;
* `Access.unmistakable_of_alone`, `Access.Unmistakable.eq_of_url`: which settings share their address with
  no others;
* `address_tells_access`: both, of the variables.
-/

import Mathlib.Data.List.Basic
import Storefront.Settings.Database

namespace Storefront

open Storefront.Text

/-! ### Texts around a mark -/

section Marks

variable {α : Type} {mark other : α} {first first' rest rest' : List α}

/-- A mark that does not stand in the first part of a text stands behind it. -/
theorem behind_first (absent : mark ∉ first) (same : first ++ rest = first' ++ mark :: rest') :
    ∃ between, first' = first ++ between ∧ rest = between ++ mark :: rest' := by
  obtain ⟨between, rfl, behind⟩ | ⟨gap, rfl, behind⟩ := List.append_eq_append_iff.mp same
  · exact ⟨between, rfl, behind⟩
  · cases gap with
    | nil => exact ⟨[], by rw [List.append_nil, List.append_nil], behind.symm⟩
    | cons c gap =>
      obtain ⟨rfl, -⟩ := List.cons.inj behind
      exact absurd (List.mem_append_right first' List.mem_cons_self) absent

/-- If another mark ends the first part, the mark stands behind that one. -/
theorem mark_behind (absent : mark ∉ first) (different : mark ≠ other)
    (same : first ++ other :: rest = first' ++ mark :: rest') :
    ∃ between, first' = first ++ other :: between ∧ rest = between ++ mark :: rest' := by
  obtain ⟨between, rfl, behind⟩ := behind_first absent same
  cases between with
  | nil => exact absurd (List.cons.inj behind).1.symm different
  | cons c between =>
    obtain ⟨rfl, rests⟩ := List.cons.inj behind
    exact ⟨between, rfl, rests⟩

/-- The first mark of a text stands in one place only. -/
theorem first_mark_eq (absent : mark ∉ first) (absent' : mark ∉ first')
    (same : first ++ mark :: rest = first' ++ mark :: rest') : first = first' ∧ rest = rest' := by
  obtain ⟨between, rfl, behind⟩ := behind_first absent same
  cases between with
  | nil => exact ⟨(List.append_nil first).symm, (List.cons.inj behind).2⟩
  | cons c between =>
    obtain ⟨rfl, -⟩ := List.cons.inj behind
    exact absurd (List.mem_append_right first List.mem_cons_self) absent'

end Marks

namespace DatabaseSettings

/-! ### Hosts -/

/-- A host name or an address, perhaps with a port: there is one, and nothing in it is white space or ends
a host within an address. -/
def IsHost (host : List Char) : Prop :=
  host ≠ [] ∧ ∀ c ∈ host, isSpace c = false ∧ c ∉ ['@', '/', '?', '#', '\\']

-- The list is gone through, not the type of characters.
instance (host : List Char) : Decidable (IsHost host) :=
  @instDecidableAnd _ _ inferInstance
    (List.decidableBAll (fun c => isSpace c = false ∧ c ∉ ['@', '/', '?', '#', '\\']) host)

theorem IsHost.no_at {host : List Char} (is : IsHost host) : '@' ∉ host :=
  fun member => (is.2 '@' member).2 (by decide)

theorem IsHost.no_slash {host : List Char} (is : IsHost host) : '/' ∉ host :=
  fun member => (is.2 '/' member).2 (by decide)

/-- A host stands in the text, with an `@` before it and a slash behind it. -/
def HoldsHost (text : List Char) : Prop :=
  ∃ before host after, text = before ++ '@' :: (host ++ '/' :: after) ∧ IsHost host

theorem not_holdsHost_of_no_at {text : List Char} (absent : '@' ∉ text) : ¬ HoldsHost text := by
  rintro ⟨before, host, after, rfl, -⟩
  exact absent (List.mem_append_right _ List.mem_cons_self)

/-- What stands behind an `@` begins with another host only if it begins with the same one, or if the other
one stands in the name. -/
theorem cases_of_gap {gap host host' name name' : List Char} (is : IsHost host) (is' : IsHost host')
    (same : '@' :: (host ++ '/' :: name) = gap ++ '@' :: (host' ++ '/' :: name')) :
    (gap = [] ∧ host = host' ∧ name = name') ∨
      ∃ between, gap = '@' :: (host ++ '/' :: between) ∧
        name = between ++ '@' :: (host' ++ '/' :: name') := by
  cases gap with
  | nil =>
    obtain ⟨hosts, names⟩ := first_mark_eq is.no_slash is'.no_slash (List.cons.inj same).2
    exact Or.inl ⟨rfl, hosts, names⟩
  | cons c gap =>
    obtain ⟨rfl, tails⟩ := List.cons.inj same
    obtain ⟨between, rfl, named⟩ := mark_behind is.no_at (by decide) tails
    exact Or.inr ⟨between, rfl, named⟩

/-- Behind two texts the same host and name stand, or a further host stands in the name of one of them. -/
theorem cases_of_hosts_eq {front front' host host' name name' : List Char} (is : IsHost host)
    (is' : IsHost host')
    (same : front ++ '@' :: (host ++ '/' :: name) = front' ++ '@' :: (host' ++ '/' :: name')) :
    (front = front' ∧ host = host' ∧ name = name') ∨
      (∃ between, name = between ++ '@' :: (host' ++ '/' :: name') ∧
        front' = front ++ '@' :: (host ++ '/' :: between)) ∨
      (∃ between, name' = between ++ '@' :: (host ++ '/' :: name) ∧
        front = front' ++ '@' :: (host' ++ '/' :: between)) := by
  obtain ⟨gap, rfl, behind⟩ | ⟨gap, rfl, behind⟩ := List.append_eq_append_iff.mp same
  · obtain ⟨rfl, rfl, rfl⟩ | ⟨between, rfl, named⟩ := cases_of_gap is is' behind
    · exact Or.inl ⟨(List.append_nil front).symm, rfl, rfl⟩
    · exact Or.inr (Or.inl ⟨between, named, rfl⟩)
  · obtain ⟨rfl, rfl, rfl⟩ | ⟨between, rfl, named⟩ := cases_of_gap is' is behind
    · exact Or.inl ⟨List.append_nil front', rfl, rfl⟩
    · exact Or.inr (Or.inr ⟨between, named, rfl⟩)

/-! ### Settings for an address -/

/-- What an address is assembled from. -/
structure Access where
  user : String
  password : String
  host : String
  name : String
deriving DecidableEq

namespace Access

variable {access other : Access}

/-- What the variables say. -/
def ofVariables (vars : Variables) : Access where
  user := vars.text "DB_USER" "dbadmin"
  password := vars.text "DB_PASSWORD" "dbadmin"
  host := vars.text "DB_HOST" "localhost:5432"
  name := vars.text "DB_NAME" "storefront"

/-- Variables that say this. -/
def toVariables (access : Access) : Variables :=
  Variables.ofList [("DB_USER", access.user), ("DB_PASSWORD", access.password), ("DB_HOST", access.host),
    ("DB_NAME", access.name)]

theorem ofVariables_toVariables (access : Access) : ofVariables access.toVariables = access := by
  simp [ofVariables, toVariables, Variables.text, Variables.ofList, List.lookup_cons]

/-- The connection string that is put together from the four texts. -/
def url (access : Access) : String := assemble access.user access.password access.host access.name

/-- Who the address is for. -/
def credentials (access : Access) : List Char :=
  access.user.toList ++ ':' :: access.password.toList

/-- The address between its scheme and its options. -/
def chars (access : Access) : List Char :=
  access.credentials ++ '@' :: (access.host.toList ++ '/' :: access.name.toList)

theorem toList_url (access : Access) :
    access.url.toList = "postgresql://".toList ++ (access.chars ++ "?sslmode=disable".toList) := by
  unfold url assemble chars credentials
  -- the two fixed texts need not be looked into
  generalize "postgresql://" = scheme
  generalize "?sslmode=disable" = options
  have marks : ":".toList = [':'] ∧ "@".toList = ['@'] ∧ "/".toList = ['/'] := ⟨rfl, rfl, rfl⟩
  simp only [String.toList_append, marks, List.append_assoc, List.cons_append, List.nil_append]

theorem url_eq_iff : access.url = other.url ↔ access.chars = other.chars := by
  rw [← String.toList_inj, toList_url, toList_url, List.append_cancel_left_eq, List.append_cancel_right_eq]

/-- No colon stands in the user and no host in the name. -/
structure Plain (access : Access) : Prop where
  user : ':' ∉ access.user.toList
  name : ¬ HoldsHost access.name.toList

/-- Nor does a colon or a host stand in the password. -/
structure Unmistakable (access : Access) : Prop extends access.Plain where
  password : ':' ∉ access.password.toList
  hostless : ¬ HoldsHost access.password.toList

/-- Two ways to read an address find the same host, or a further one in the name of one of them. -/
theorem cases_of_url_eq (is : IsHost access.host.toList) (is' : IsHost other.host.toList)
    (same : access.url = other.url) :
    (access.credentials = other.credentials ∧ access.host = other.host ∧ access.name = other.name) ∨
      (∃ between,
        access.name.toList = between ++ '@' :: (other.host.toList ++ '/' :: other.name.toList) ∧
        other.credentials = access.credentials ++ '@' :: (access.host.toList ++ '/' :: between)) ∨
      (∃ between,
        other.name.toList = between ++ '@' :: (access.host.toList ++ '/' :: access.name.toList) ∧
        access.credentials = other.credentials ++ '@' :: (other.host.toList ++ '/' :: between)) := by
  obtain ⟨fronts, hosts, names⟩ | further := cases_of_hosts_eq is is' (url_eq_iff.mp same)
  · exact Or.inl ⟨fronts, String.toList_inj.mp hosts, String.toList_inj.mp names⟩
  · exact Or.inr further

/-! ### Plain settings -/

theorem eq_of_toList (users : access.user.toList = other.user.toList)
    (passwords : access.password.toList = other.password.toList) (hosts : access.host = other.host)
    (names : access.name = other.name) : access = other := by
  rcases access with ⟨_, _, _, _⟩
  rcases other with ⟨_, _, _, _⟩
  rw [mk.injEq]
  exact ⟨String.toList_inj.mp users, String.toList_inj.mp passwords, hosts, names⟩

/-- An address is that of one plain access only. -/
theorem Plain.eq_of_url (plain : access.Plain) (plain' : other.Plain) (is : IsHost access.host.toList)
    (is' : IsHost other.host.toList) (same : access.url = other.url) : access = other := by
  obtain ⟨fronts, hosts, names⟩ | ⟨between, named, -⟩ | ⟨between, named, -⟩ :=
    cases_of_url_eq is is' same
  · obtain ⟨users, passwords⟩ := first_mark_eq plain.user plain'.user fronts
    exact eq_of_toList users passwords hosts names
  · exact absurd ⟨between, _, _, named, is'⟩ plain.name
  · exact absurd ⟨between, _, _, named, is⟩ plain'.name

/-- Whoever finds these four texts in an address finds settings for it. -/
theorem exists_reading (user password host name : List Char) (is : IsHost host)
    (same : user ++ ':' :: password ++ '@' :: (host ++ '/' :: name) = access.chars) :
    ∃ other : Access, IsHost other.host.toList ∧ other.url = access.url ∧ other.user.toList = user ∧
      other.password.toList = password ∧ other.name.toList = name := by
  refine ⟨⟨.ofList user, .ofList password, .ofList host, .ofList name⟩, ?_, ?_, ?_, ?_, ?_⟩
  · rwa [String.toList_ofList]
  · rw [url_eq_iff, ← same, chars, credentials]
    simp only [String.toList_ofList]
  all_goals exact String.toList_ofList

/-- A colon in the user may be read as the end of the user. -/
theorem exists_of_colon (is : IsHost access.host.toList) {before after : List Char}
    (said : access.user.toList = before ++ ':' :: after) :
    ∃ other : Access, IsHost other.host.toList ∧ other.url = access.url ∧ other.user.toList = before ∧
      other.name.toList = access.name.toList := by
  obtain ⟨other, found, same, user, -, name⟩ := access.exists_reading before
    (after ++ ':' :: access.password.toList) access.host.toList access.name.toList is
    (by simp only [chars, credentials, said, List.append_assoc, List.cons_append])
  exact ⟨other, found, same, user, name⟩

/-- A host in the name may be read as the host. -/
theorem exists_of_host {before host after : List Char} (is : IsHost host)
    (named : access.name.toList = before ++ '@' :: (host ++ '/' :: after)) :
    ∃ other : Access, IsHost other.host.toList ∧ other.url = access.url ∧ other.name.toList = after := by
  obtain ⟨other, found, same, -, -, name⟩ := access.exists_reading access.user.toList
    (access.password.toList ++ '@' :: (access.host.toList ++ '/' :: before)) host after is
    (by simp only [chars, credentials, named, List.append_assoc, List.cons_append])
  exact ⟨other, found, same, name⟩

/-- Every address is that of a plain access. -/
theorem exists_plain (is : IsHost access.host.toList) :
    ∃ plain : Access, plain.Plain ∧ IsHost plain.host.toList ∧ plain.url = access.url := by
  -- each further host that is found leaves less of the name
  induction left : access.name.toList.length using Nat.strongRecOn generalizing access with
  | ind count ih =>
    subst left
    by_cases holds : HoldsHost access.name.toList
    · obtain ⟨before, host, after, named, is'⟩ := holds
      obtain ⟨other, found, same, rest⟩ := exists_of_host is' named
      have shorter : other.name.toList.length < access.name.toList.length := by
        rw [rest, named, List.length_append, List.length_cons, List.length_append, List.length_cons]
        omega
      obtain ⟨plain, fits, host, same'⟩ := ih _ shorter found rfl
      exact ⟨plain, fits, host, same'.trans same⟩
    · by_cases colon : ':' ∈ access.user.toList
      · obtain ⟨before, after, said, absent⟩ := List.eq_append_cons_of_mem colon
        obtain ⟨other, found, same, user, rest⟩ := exists_of_colon is said
        exact ⟨other, ⟨user ▸ absent, rest ▸ holds⟩, found, same⟩
      · exact ⟨access, ⟨colon, holds⟩, is, rfl⟩

/-! ### Settings that are not mistaken -/

/-- Settings that share their address with no others are unmistakable. -/
theorem unmistakable_of_alone (is : IsHost access.host.toList)
    (alone : ∀ other : Access, IsHost other.host.toList → other.url = access.url → other = access) :
    access.Unmistakable := by
  refine ⟨⟨fun colon => ?user, ?name⟩, fun colon => ?password, ?hostless⟩
  case user =>
    obtain ⟨before, after, said⟩ := List.append_of_mem colon
    obtain ⟨other, found, same, user, -⟩ := exists_of_colon is said
    rw [alone other found same, said] at user
    exact absurd (congrArg List.length user) (by simp)
  case password =>
    obtain ⟨before, after, said⟩ := List.append_of_mem colon
    obtain ⟨other, found, same, -, password, -⟩ := access.exists_reading
      (access.user.toList ++ ':' :: before) after access.host.toList access.name.toList is
      (by simp only [chars, credentials, said, List.append_assoc, List.cons_append])
    rw [alone other found same, said] at password
    exact absurd (congrArg List.length password) (by simp; omega)
  case name =>
    rintro ⟨before, host, after, named, is'⟩
    obtain ⟨other, found, same, rest⟩ := exists_of_host is' named
    rw [alone other found same, named] at rest
    exact absurd (congrArg List.length rest) (by simp; omega)
  case hostless =>
    rintro ⟨before, host, after, said, is'⟩
    obtain ⟨other, found, same, -, password, -⟩ := access.exists_reading access.user.toList before host
      (after ++ '@' :: (access.host.toList ++ '/' :: access.name.toList)) is'
      (by simp only [chars, credentials, said, List.append_assoc, List.cons_append])
    rw [alone other found same, said] at password
    exact absurd (congrArg List.length password) (by simp)

/-- Unmistakable settings share their address with no others. -/
theorem Unmistakable.eq_of_url (unmistakable : access.Unmistakable) (is : IsHost access.host.toList)
    (is' : IsHost other.host.toList) (same : other.url = access.url) : other = access := by
  obtain ⟨⟨user, name⟩, password, hostless⟩ := unmistakable
  obtain ⟨fronts, hosts, names⟩ | ⟨between, named, front⟩ | ⟨between, named, -⟩ :=
    cases_of_url_eq is' is same
  · obtain ⟨users, -, passwords⟩ := (List.append_cons_inj_of_notMem user password).mp fronts.symm
    exact eq_of_toList users.symm passwords.symm hosts names
  · rw [credentials, credentials, List.append_assoc] at front
    obtain ⟨-, -, passwords⟩ := (List.append_cons_inj_of_notMem user password).mp front
    exact absurd ⟨_, _, between, passwords, is'⟩ hostless
  · exact absurd ⟨between, _, _, named, is'⟩ name

/-- The variables say this and give no address, and the host is one. -/
structure GivenBy (vars : Variables) (access : Access) : Prop where
  unset : vars "DATABASE_URL" = none
  said : ofVariables vars = access
  host : IsHost access.host.toList

theorem GivenBy.url_eq {vars : Variables} (given : access.GivenBy vars) (processors : Nat) :
    (DatabaseSettings.ofVariables processors vars).url = access.url := by
  have assembled : urlOfVariables vars = (ofVariables vars).url := by
    unfold urlOfVariables
    rw [given.unset, Option.getD_none]
    rfl
  exact assembled.trans (congrArg url given.said)

theorem givenBy_toVariables (is : IsHost access.host.toList) : access.GivenBy access.toVariables where
  unset := by simp [toVariables, Variables.ofList, List.lookup_cons]
  said := ofVariables_toVariables access
  host := is

end Access

/-- **An address tells the settings that it was assembled from, if they are plain.** Plain settings with the
same address are the same.  There is no larger class of settings of which this is so, for every address is
that of plain settings.  No other settings at all have the same address exactly if neither a colon nor a
host stands in the password, and the settings are plain. -/
theorem address_tells_access {vars : Variables} {access : Access} (given : access.GivenBy vars)
    (processors : Nat) :
    (access.Plain → ∀ (vars' : Variables) (other : Access), other.GivenBy vars' → other.Plain →
        (ofVariables processors vars').url = (ofVariables processors vars).url → other = access) ∧
      (∃! plain : Access, plain.Plain ∧ ∃ vars', plain.GivenBy vars' ∧
        (ofVariables processors vars').url = (ofVariables processors vars).url) ∧
      ((∀ (vars' : Variables) (other : Access), other.GivenBy vars' →
          (ofVariables processors vars').url = (ofVariables processors vars).url → other = access) ↔
        access.Unmistakable) := by
  have addressed : ∀ {vars' : Variables} {other : Access}, other.GivenBy vars' →
      ((ofVariables processors vars').url = (ofVariables processors vars).url ↔
        other.url = access.url) := by
    intro vars' other given'
    rw [given'.url_eq, given.url_eq]
  refine ⟨?plain, ?unique, ?alone⟩
  case plain =>
    intro plain vars' other given' plain' same
    exact plain'.eq_of_url plain given'.host given.host ((addressed given').mp same)
  case unique =>
    obtain ⟨plain, fits, is, same⟩ := Access.exists_plain given.host
    have given' := Access.givenBy_toVariables is
    refine ⟨plain, ⟨fits, _, given', (addressed given').mpr same⟩, ?_⟩
    rintro other ⟨fits', vars', given', same'⟩
    exact fits'.eq_of_url fits given'.host is (((addressed given').mp same').trans same.symm)
  case alone =>
    constructor
    · refine fun alone => Access.unmistakable_of_alone given.host fun other is same => ?_
      have given' := Access.givenBy_toVariables is
      exact alone _ other given' ((addressed given').mpr same)
    · exact fun unmistakable vars' other given' same =>
        unmistakable.eq_of_url given.host given'.host ((addressed given').mp same)

/-- A user in whose name a colon stands. -/
def colonInUser : Variables := Variables.ofList [("DB_USER", "shop:eu"), ("DB_PASSWORD", "secret")]

/-- A user whose password begins with the rest of that name. -/
def colonInPassword : Variables := Variables.ofList [("DB_USER", "shop"), ("DB_PASSWORD", "eu:secret")]

/-- A database in whose name a host stands. -/
def hostInName : Variables := Variables.ofList
  [("DB_PASSWORD", "secret"), ("DB_HOST", "db.internal:5432"), ("DB_NAME", "shop@db.test/shop")]

/-- A database on that host. -/
def hostInPassword : Variables := Variables.ofList
  [("DB_PASSWORD", "secret@db.internal:5432/shop"), ("DB_HOST", "db.test"), ("DB_NAME", "shop")]

/-- Settings with a colon in the password are told from other plain ones, and the usual settings from all
others. -/
theorem address_tells_access_sample :
    (∀ (vars' : Variables) (other : Access), other.GivenBy vars' → other.Plain →
        (ofVariables 1 vars').url = (ofVariables 1 colonInPassword).url →
          other = ⟨"shop", "eu:secret", "localhost:5432", "storefront"⟩) ∧
      ∀ (vars' : Variables) (other : Access), other.GivenBy vars' →
        (ofVariables 1 vars').url = (ofVariables 1 (Variables.ofList [])).url →
          other = ⟨"dbadmin", "dbadmin", "localhost:5432", "storefront"⟩ := by
  have nameless : ¬ HoldsHost "storefront".toList := not_holdsHost_of_no_at (by decide +kernel)
  have colon : Access.GivenBy colonInPassword ⟨"shop", "eu:secret", "localhost:5432", "storefront"⟩ :=
    ⟨rfl, by decide +kernel, by decide +kernel⟩
  have usual : Access.GivenBy (Variables.ofList [])
      ⟨"dbadmin", "dbadmin", "localhost:5432", "storefront"⟩ := ⟨rfl, rfl, by decide +kernel⟩
  obtain ⟨told, -, -⟩ := address_tells_access colon 1
  obtain ⟨-, -, alone⟩ := address_tells_access usual 1
  refine ⟨told ⟨by decide +kernel, nameless⟩, alone.mpr ⟨⟨by decide +kernel, nameless⟩, ?_, ?_⟩⟩
  · decide +kernel
  · exact not_holdsHost_of_no_at (by decide +kernel)

/-- **An address does not tell all settings apart**: a user with a colon is mistaken for one with another
password, and a database with a host in its name for one on that host. -/
theorem addresses_mistaken :
    (Access.GivenBy colonInUser ⟨"shop:eu", "secret", "localhost:5432", "storefront"⟩ ∧
      Access.GivenBy colonInPassword ⟨"shop", "eu:secret", "localhost:5432", "storefront"⟩ ∧
      (ofVariables 1 colonInUser).url = (ofVariables 1 colonInPassword).url ∧
      Access.ofVariables colonInUser ≠ Access.ofVariables colonInPassword) ∧
    (Access.GivenBy hostInName ⟨"dbadmin", "secret", "db.internal:5432", "shop@db.test/shop"⟩ ∧
      Access.GivenBy hostInPassword ⟨"dbadmin", "secret@db.internal:5432/shop", "db.test", "shop"⟩ ∧
      (ofVariables 1 hostInName).url = (ofVariables 1 hostInPassword).url ∧
      Access.ofVariables hostInName ≠ Access.ofVariables hostInPassword) := by
  refine ⟨⟨⟨rfl, ?_, ?_⟩, ⟨rfl, ?_, ?_⟩, ?_, ?_⟩, ⟨rfl, ?_, ?_⟩, ⟨rfl, ?_, ?_⟩, ?_, ?_⟩
  all_goals decide +kernel

end DatabaseSettings

end Storefront
