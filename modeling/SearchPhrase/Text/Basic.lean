import SearchPhrase.Unicode.InversionList

/-!
# Texts

A text is the list of its characters.  This module holds the operations on texts that know about
white space and separators: trimming, words, cutting at a character, and plain containment.
Splitting and joining at a separator are those of lists.
-/

namespace SearchPhrase

namespace Unicode

/-- The code points with the `White_Space` property. -/
def whiteSpace : InversionList :=
  [0x9, 0xE, 0x20, 0x21, 0x85, 0x86, 0xA0, 0xA1, 0x1680, 0x1681, 0x2000, 0x200B, 0x2028, 0x202A,
   0x202F, 0x2030, 0x205F, 0x2060, 0x3000, 0x3001]

/-- Whether a character is white space.  The zero-width space and the byte-order mark are not. -/
def isWhiteSpace (c : Char) : Bool :=
  whiteSpace.contains c.toNat

end Unicode

/-- A text, as the list of its characters. -/
abbrev Text := List Char

namespace Text

open Unicode

/-- A property of every character of a text is decided along the text. -/
instance decidableForallMem {P : Char → Prop} [DecidablePred P] (text : Text) :
    Decidable (∀ c ∈ text, P c) :=
  decidable_of_iff (text.all (decide <| P ·)) (by simp)

/-- A property of a character that may be missing is decided at that character. -/
instance decidableForallMemOption {P : Char → Prop} [DecidablePred P] (found : Option Char) :
    Decidable (∀ c ∈ found, P c) :=
  decidable_of_iff (found.all (decide <| P ·)) (by cases found <;> simp)

/-- A text without the white space at its start. -/
def trimStart (text : Text) : Text :=
  text.dropWhile isWhiteSpace

/-- A text without the white space at its end. -/
def trimEnd (text : Text) : Text :=
  (trimStart text.reverse).reverse

/-- A text without the white space at either end. -/
def trim (text : Text) : Text :=
  trimEnd (trimStart text)

/-- Whether a text holds nothing but white space. -/
def isBlank (text : Text) : Bool :=
  text.all isWhiteSpace

theorem isBlank_iff {text : Text} : isBlank text = true ↔ ∀ c ∈ text, isWhiteSpace c = true :=
  List.all_eq_true

theorem isBlank_nil : isBlank [] = true := rfl

@[simp] theorem trimStart_nil : trimStart [] = [] := rfl

@[simp] theorem trim_nil : trim [] = [] := rfl

/-- What is left of a text without its leading white space begins with no white space. -/
theorem isWhiteSpace_of_head?_trimStart {text : Text} {c : Char}
    (first : (trimStart text).head? = some c) : isWhiteSpace c = false := by
  have solid := List.head?_dropWhile_not isWhiteSpace text
  rw [trimStart] at first
  simpa [first] using solid

/-- A text that begins with no white space has none to lose at its start. -/
theorem trimStart_eq_self {text : Text} (first : ∀ c ∈ text.head?, isWhiteSpace c = false) :
    trimStart text = text := by
  cases text with
  | nil => rfl
  | cons c rest => simp [trimStart, first c rfl]

theorem trimStart_eq_nil_iff {text : Text} : trimStart text = [] ↔ isBlank text = true := by
  induction text with
  | nil => simp [isBlank]
  | cons c rest ih => by_cases space : isWhiteSpace c <;> simp_all [trimStart, isBlank]

/-- What is left of a text without its trailing white space ends in no white space. -/
theorem isWhiteSpace_of_getLast?_trimEnd {text : Text} {c : Char}
    (last : (trimEnd text).getLast? = some c) : isWhiteSpace c = false :=
  isWhiteSpace_of_head?_trimStart (by simpa [trimEnd] using last)

/-- A text that ends in no white space has none to lose at its end. -/
theorem trimEnd_eq_self {text : Text} (last : ∀ c ∈ text.getLast?, isWhiteSpace c = false) :
    trimEnd text = text := by
  rw [trimEnd, trimStart_eq_self (by simpa using last), List.reverse_reverse]

theorem trimEnd_prefix (text : Text) : trimEnd text <+: text := by
  rw [trimEnd, ← List.reverse_suffix, List.reverse_reverse]
  exact List.dropWhile_suffix _

theorem trimEnd_eq_nil_iff {text : Text} : trimEnd text = [] ↔ isBlank text = true := by
  rw [trimEnd, List.reverse_eq_nil_iff, trimStart_eq_nil_iff]
  simp [isBlank_iff]

/-- A trimmed text begins with no white space. -/
theorem isWhiteSpace_of_head?_trim {text : Text} {c : Char}
    (first : (trim text).head? = some c) : isWhiteSpace c = false := by
  obtain ⟨dropped, whole⟩ := trimEnd_prefix (trimStart text)
  have start : (trimStart text).head? = some c := by
    rw [← whole, List.head?_append, ← trim, first, Option.some_or]
  exact isWhiteSpace_of_head?_trimStart start

/-- A trimmed text ends in no white space. -/
theorem isWhiteSpace_of_getLast?_trim {text : Text} {c : Char}
    (last : (trim text).getLast? = some c) : isWhiteSpace c = false :=
  isWhiteSpace_of_getLast?_trimEnd last

/-- Trimming leaves a text as it is exactly when there is no white space at either end. -/
theorem trim_eq_self_iff {text : Text} :
    trim text = text ↔
      (∀ c ∈ text.head?, isWhiteSpace c = false) ∧
        ∀ c ∈ text.getLast?, isWhiteSpace c = false := by
  constructor
  · intro trimmed
    rw [← trimmed]
    exact ⟨fun _ => isWhiteSpace_of_head?_trim, fun _ => isWhiteSpace_of_getLast?_trim⟩
  · rintro ⟨first, last⟩
    rw [trim, trimStart_eq_self first, trimEnd_eq_self last]

@[simp] theorem trim_trim (text : Text) : trim (trim text) = trim text :=
  trim_eq_self_iff.2
    ⟨fun _ => isWhiteSpace_of_head?_trim, fun _ => isWhiteSpace_of_getLast?_trim⟩

/-- Nothing is left of a text after trimming exactly when it is blank. -/
theorem trim_eq_nil_iff {text : Text} : trim text = [] ↔ isBlank text = true := by
  rw [trim, trimEnd_eq_nil_iff]
  constructor
  · intro blank
    rw [← trimStart_eq_nil_iff]
    cases left : trimStart text with
    | nil => rfl
    | cons c rest =>
        have space := isBlank_iff.1 blank c (by simp [left])
        simp [isWhiteSpace_of_head?_trimStart (by rw [left]; rfl)] at space
  · intro blank
    rw [trimStart_eq_nil_iff.2 blank]
    rfl

/-- The text before the first separator, and the text after it if there is a separator. -/
def cutAt (separator : Char) : Text → Text × Option Text
  | [] => ([], none)
  | c :: rest =>
      if c = separator then ([], some rest)
      else
        match cutAt separator rest with
        | (head, tail) => (c :: head, tail)

@[simp] theorem cutAt_of_not_mem {separator : Char} {text : Text} (absent : separator ∉ text) :
    cutAt separator text = (text, none) := by
  induction text with
  | nil => rfl
  | cons c rest ih =>
      obtain ⟨different, absent⟩ := List.ne_and_not_mem_of_not_mem_cons absent
      simp [cutAt, different.symm, ih absent]

@[simp] theorem cutAt_append_cons {separator : Char} {head : Text} (absent : separator ∉ head)
    (tail : Text) : cutAt separator (head ++ separator :: tail) = (head, some tail) := by
  induction head with
  | nil => simp [cutAt]
  | cons c rest ih =>
      obtain ⟨different, absent⟩ := List.ne_and_not_mem_of_not_mem_cons absent
      simp [cutAt, different.symm, ih absent]

/-! ## Words -/

/-- Whether a text begins with a word rather than with white space or its end. -/
def startsWord : Text → Bool
  | [] => false
  | c :: _ => !isWhiteSpace c

/-- Put a character in front of the first of several words. -/
def consFirst (c : Char) : List Text → List Text
  | [] => [[c]]
  | word :: words => (c :: word) :: words

/-- The words of a text: its maximal runs of characters that are not white space. -/
def words : Text → List Text
  | [] => []
  | c :: rest =>
      if isWhiteSpace c then words rest
      else if startsWord rest then consFirst c (words rest)
      else [c] :: words rest

/-- White space in front of a text belongs to no word. -/
@[simp] theorem words_cons_of_isWhiteSpace {c : Char} (space : isWhiteSpace c = true)
    (rest : Text) : words (c :: rest) = words rest := by
  simp [words, space]

/-- A word in front of white space or the end of the text is a word of the text. -/
theorem words_append {word rest : Text} (nonempty : word ≠ [])
    (solid : ∀ c ∈ word, isWhiteSpace c = false) (apart : startsWord rest = false) :
    words (word ++ rest) = word :: words rest := by
  induction word with
  | nil => exact absurd rfl nonempty
  | cons c tail ih =>
      have head := solid c (by simp)
      cases tail with
      | nil => simp [words, head, apart]
      | cons d tail =>
          have next := solid d (by simp)
          have ih := ih (by simp) fun e he => solid e (List.mem_cons_of_mem _ he)
          rw [List.cons_append, words, ih]
          simp [head, next, startsWord, consFirst]

/-- Words that are joined with blanks are found again. -/
theorem words_intercalate {parts : List Text} (nonempty : ∀ part ∈ parts, part ≠ [])
    (solid : ∀ part ∈ parts, ∀ c ∈ part, isWhiteSpace c = false) :
    words (List.intercalate [' '] parts) = parts := by
  induction parts with
  | nil => rfl
  | cons part parts ih =>
      have ih := ih (fun p hp => nonempty p (List.mem_cons_of_mem _ hp))
        fun p hp => solid p (List.mem_cons_of_mem _ hp)
      have first := nonempty part (by simp)
      have firstSolid := solid part (by simp)
      cases parts with
      | nil => simpa [words] using words_append first firstSolid (rfl : startsWord [] = false)
      | cons next parts =>
          rw [List.intercalate_cons_cons, List.append_assoc, List.singleton_append,
            words_append first firstSolid rfl, words_cons_of_isWhiteSpace (by decide), ih]

/-- The words of a text with a single blank between neighbours. -/
def collapse (text : Text) : Text :=
  List.intercalate [' '] (words text)

/-- Whether a text occurs somewhere within another. -/
def occursIn (needle : Text) : Text → Bool
  | [] => needle.isEmpty
  | c :: rest => needle.isPrefixOf (c :: rest) || occursIn needle rest

theorem occursIn_iff {needle text : Text} : occursIn needle text = true ↔ needle <:+: text := by
  induction text with
  | nil => simp [occursIn]
  | cons c rest ih => simp [occursIn, ih, List.infix_cons_iff]

/-- An ASCII phrase with a capital first letter and small letters after it. -/
def capitalize : Text → Text
  | [] => []
  | c :: rest => c.toUpper :: rest.map Char.toLower

/-- An ASCII phrase with each of its words capitalized. -/
def titleCase (text : Text) : Text :=
  List.intercalate [' '] ((words text).map capitalize)

end Text
end SearchPhrase
