/-
**White space.**

The characters with the Unicode property White_Space, and what reading does with them: trimming
both ends of a text (`trim`), cutting it into words (`words`) and cutting it at a separator
(`pieces`).  Everything is defined on lists of characters; the versions on `String` are wrappers.

Main statements:

* `words_append`: a word up to the next space is the first one;
* `trim_trim`: trimming twice is trimming once;
* `isSpace_of_isWhitespace`: the blanks of the ASCII range that the core library knows are among
  the characters recognised here.
-/

namespace Storefront.Text

/-- Has this character the Unicode property White_Space? -/
def isSpace (c : Char) : Bool :=
  let n := c.toNat
  (0x09 ≤ n && n ≤ 0x0D) || n == 0x20 || n == 0x85 || n == 0xA0 || n == 0x1680
    || (0x2000 ≤ n && n ≤ 0x200A) || n == 0x2028 || n == 0x2029 || n == 0x202F || n == 0x205F
    || n == 0x3000

/-- Every blank of the core library is a space in the sense of Unicode. -/
theorem isSpace_of_isWhitespace {c : Char} (blank : c.isWhitespace = true) : isSpace c = true := by
  simp only [Char.isWhitespace, Bool.or_eq_true, decide_eq_true_eq] at blank
  rcases blank with ((rfl | rfl) | rfl) | rfl <;> rfl

/-! ### Trimming -/

/-- The list without the spaces at its end. -/
def trimEnd (cs : List Char) : List Char := (cs.reverse.dropWhile isSpace).reverse

/-- The list without the spaces at its two ends. -/
def trim (cs : List Char) : List Char := trimEnd (cs.dropWhile isSpace)

/-- A text without the spaces at its two ends. -/
def trimmed (s : String) : String := String.ofList (trim s.toList)

/-- Is there nothing in the text but spaces? -/
def isBlank (s : String) : Bool := s.toList.all isSpace

/-! ### Words and pieces -/

/-- Collects words from the right: a space ends the word that is being collected. -/
private def wordsStep (c : Char) (found : List Char × List (List Char)) :
    List Char × List (List Char) :=
  if isSpace c then
    ([], if found.1.isEmpty then found.2 else found.1 :: found.2)
  else
    (c :: found.1, found.2)

/-- The maximal runs of characters that are no spaces, from left to right. -/
def words (cs : List Char) : List (List Char) :=
  let found := cs.foldr wordsStep ([], [])
  if found.1.isEmpty then found.2 else found.1 :: found.2

/-- The pieces of a list between the occurrences of a separator: always one more than those. -/
def pieces (separator : Char) : List Char → List (List Char)
  | [] => [[]]
  | c :: rest =>
    if c = separator then [] :: pieces separator rest
    else match pieces separator rest with
      | [] => [[c]]
      | piece :: others => (c :: piece) :: others

/-- ASCII letters in upper case, everything else as it is. -/
def upper (cs : List Char) : List Char := cs.map Char.toUpper

/-! ### Laws -/

/-- A space at the beginning belongs to no word. -/
theorem words_cons_of_space {c : Char} (space : isSpace c = true) (cs : List Char) :
    words (c :: cs) = words cs := by
  simp [words, wordsStep, space]

/-- Characters that are no spaces are put in front of the word that is being collected. -/
private theorem wordsStep_append {word : List Char} (visible : ∀ c ∈ word, isSpace c = false)
    (rest : List Char) :
    (word ++ rest).foldr wordsStep ([], []) =
      (word ++ (rest.foldr wordsStep ([], [])).1, (rest.foldr wordsStep ([], [])).2) := by
  induction word with
  | nil => rfl
  | cons c word ih =>
    have later := ih fun other member => visible other (List.mem_cons_of_mem _ member)
    rw [List.cons_append, List.foldr_cons, later]
    simp [wordsStep, visible c List.mem_cons_self]

/-- A word up to the next space, or to the end, is the first one. -/
theorem words_append {word rest : List Char} (filled : word ≠ [])
    (visible : ∀ c ∈ word, isSpace c = false) (stops : ∀ c ∈ rest.head?, isSpace c = true) :
    words (word ++ rest) = word :: words rest := by
  have started : (rest.foldr wordsStep ([], [])).1 = [] := by
    cases rest with
    | nil => rfl
    | cons c rest => simp [wordsStep, stops c rfl]
  simp [words, wordsStep_append visible, started, filled]

theorem pieces_of_absent {separator : Char} {cs : List Char} (absent : separator ∉ cs) :
    pieces separator cs = [cs] := by
  induction cs with
  | nil => rfl
  | cons c rest ih =>
    simp only [List.mem_cons, not_or] at absent
    simp [pieces, Ne.symm absent.1, ih absent.2]

theorem pieces_append {separator : Char} {cs rest : List Char} (absent : separator ∉ cs) :
    pieces separator (cs ++ separator :: rest) = cs :: pieces separator rest := by
  induction cs with
  | nil => simp [pieces]
  | cons c cs ih =>
    simp only [List.mem_cons, not_or] at absent
    simp [pieces, Ne.symm absent.1, ih absent.2]

/-- Parts without the separator are the pieces of what they make with separators between them. -/
theorem pieces_intercalate {separator : Char} {parts : List (List Char)} (filled : parts ≠ [])
    (absent : ∀ part ∈ parts, separator ∉ part) :
    pieces separator ([separator].intercalate parts) = parts := by
  induction parts with
  | nil => exact absurd rfl filled
  | cons part rest ih =>
    cases rest with
    | nil => simpa [List.intercalate] using pieces_of_absent (absent part List.mem_cons_self)
    | cons next rest =>
      have whole : [separator].intercalate (part :: next :: rest) =
          part ++ separator :: [separator].intercalate (next :: rest) := by
        simp [List.intercalate, List.intersperse]
      rw [whole, pieces_append (absent part List.mem_cons_self),
        ih (by simp) fun other member => absent other (List.mem_cons_of_mem _ member)]

theorem dropWhile_eq_self_of_head {p : Char → Bool} {cs : List Char}
    (head : ∀ c ∈ cs.head?, p c = false) : cs.dropWhile p = cs := by
  cases cs with
  | nil => rfl
  | cons c rest =>
    have : p c = false := head c rfl
    simp [this]

theorem head?_dropWhile {p : Char → Bool} (cs : List Char) :
    ∀ c ∈ (cs.dropWhile p).head?, p c = false := by
  induction cs with
  | nil => simp
  | cons c rest ih =>
    by_cases hit : p c = true
    · simpa [List.dropWhile_cons, hit] using ih
    · simp [hit]

/-- Trimming the end leaves the first character of what is left where it was. -/
theorem head?_trimEnd {cs : List Char} {c : Char} (found : (trimEnd cs).head? = some c) :
    cs.head? = some c := by
  unfold trimEnd at found
  have split := List.takeWhile_append_dropWhile (p := isSpace) (l := cs.reverse)
  have whole : cs = (cs.reverse.dropWhile isSpace).reverse ++ (cs.reverse.takeWhile isSpace).reverse := by
    rw [← List.reverse_append, split, List.reverse_reverse]
  rw [whole, List.head?_append, found]
  rfl

theorem trimEnd_trimEnd (cs : List Char) : trimEnd (trimEnd cs) = trimEnd cs := by
  unfold trimEnd
  rw [List.reverse_reverse, dropWhile_eq_self_of_head (head?_dropWhile _)]

theorem trim_trim (cs : List Char) : trim (trim cs) = trim cs := by
  unfold trim
  have start : (trimEnd (cs.dropWhile isSpace)).dropWhile isSpace = trimEnd (cs.dropWhile isSpace) := by
    apply dropWhile_eq_self_of_head
    intro c found
    exact head?_dropWhile cs c (head?_trimEnd found)
  rw [start, trimEnd_trimEnd]

end Storefront.Text
