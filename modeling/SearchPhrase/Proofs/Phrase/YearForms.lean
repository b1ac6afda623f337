import SearchPhrase.Proofs.Phrase.Amounts
import SearchPhrase.Proofs.Phrase.Sources
import SearchPhrase.Unicode.Ascii

/-!
# Years and the words around them

A year is read after a leading word, in a pair with the mark of a range in between, or by itself.
Each of these occurrences is a fixed arrangement of words and years, and the digits of each year are
recorded.
-/

namespace SearchPhrase
namespace Years

open Pattern Figure Text Unicode

/-- A leading word and the year after it, as the parts of an occurrence. -/
structure LedForm (side : Side) (found : Match) where
  /-- The leading word. -/
  word : String
  /-- The white space after it. -/
  gap : Text
  /-- The year. -/
  digits : Text
  /-- The word makes a year one end of a range. -/
  known : word ∈ leads side
  /-- There is white space after it. -/
  spaced : gap ≠ []
  /-- There is nothing else between it and the year. -/
  blank : isBlank gap = true
  /-- The year has the form of one. -/
  isYear : IsYear digits
  /-- The parts make up the occurrence. -/
  whole : found.text = word.toList ++ (gap ++ digits)
  /-- The year is recorded. -/
  slot : found.slot? .left = some digits

theorem nonempty_ledForm
    {side : Side}
    {text : Text}
    {found : Match}
    (member : found ∈ (ledYear side).findAll text) :
    Nonempty (LedForm side found) := by
  have plain : (oneOf (leads side) ++ blank).isPlain = true := by cases side <;> decide
  obtain ⟨-, records, -⟩ := records_bounded.1 (records_of_mem_findAll member)
  obtain ⟨_, digits, whole, ⟨_, gap, rfl, isWord, isGap⟩, records⟩ :=
    (records_plain_append plain).1 records
  obtain ⟨isYear, captures⟩ := (records_capture rfl).1 records
  obtain ⟨word, known, rfl⟩ := takes_oneOf.1 isWord
  obtain ⟨spaced, blank⟩ := takes_blank.1 isGap
  refine ⟨word, gap, digits, known, spaced, blank, @isYear_of_takes .left _ _ _ isYear, ?_, ?_⟩
  · simpa using whole
  · simp [Match.slot?, captures]

/-- Two years and the mark between them, as the parts of an occurrence. -/
structure PairForm (found : Match) where
  /-- The first year. -/
  first : Text
  /-- The white space after it. -/
  gap : Text
  /-- The mark. -/
  mark : Text
  /-- The white space before the second year. -/
  gap' : Text
  /-- The second year. -/
  second : Text
  /-- The first year has the form of one. -/
  isYear : IsYear first
  /-- There is only white space before the mark. -/
  blank : isBlank gap = true
  /-- The mark is one of two. -/
  known : mark = ['-'] ∨ mark = ['t', 'o']
  /-- There is only white space after the mark. -/
  blank' : isBlank gap' = true
  /-- The second year has the form of one. -/
  isYear' : IsYear second
  /-- The parts make up the occurrence. -/
  whole : found.text = first ++ (gap ++ (mark ++ (gap' ++ second)))
  /-- The first year is recorded. -/
  slot : found.slot? .left = some first
  /-- The second year is recorded. -/
  slot' : found.slot? .right = some second

theorem nonempty_pairForm
    {text : Text}
    {found : Match}
    (member : found ∈ yearPair.findAll text) :
    Nonempty (PairForm found) := by
  obtain ⟨-, records, -⟩ := records_bounded.1 (records_of_mem_findAll member)
  obtain ⟨_, second, early, late, whole, captures, records, last⟩ := records_append.1 records
  obtain ⟨first, _, rfl, records, _, gap', rfl, ⟨gap, mark, rfl, isGap, isMark⟩, isGap'⟩ :=
    (records_append_plain (by decide)).1 records
  obtain ⟨isYear, rfl⟩ := (records_capture rfl).1 records
  obtain ⟨isYear', rfl⟩ := (records_capture rfl).1 last
  refine ⟨first, gap, mark, gap', second, @isYear_of_takes .left _ _ _ isYear, takes_gap.1 isGap,
    eq_of_takes_mark isMark, takes_gap.1 isGap', @isYear_of_takes .right _ _ _ isYear', ?_, ?_, ?_⟩
  · simpa only [List.append_assoc] using whole
  · simp [Match.slot?, captures]
  · simp [Match.slot?, captures]

/-- A year by itself is recorded as it stands. -/
theorem slot?_of_loneYear
    {text : Text}
    {found : Match}
    (member : found ∈ loneYear.findAll text) :
    IsYear found.text ∧ found.slot? .left = some found.text := by
  obtain ⟨-, records, -⟩ := records_bounded.1 (records_of_mem_findAll member)
  obtain ⟨isYear, captures⟩ := (records_capture rfl).1 records
  exact ⟨@isYear_of_takes .left _ _ _ isYear, by simp [Match.slot?, captures]⟩

theorem IsYear.length_eq {text : Text} (isYear : IsYear text) : text.length = 4 := by
  obtain ⟨century, known, c, d, rfl, -⟩ := isYear
  have lengths : ∀ century ∈ ["19", "20"], century.toList.length = 2 := by decide
  rw [List.length_append, lengths century known]
  rfl

/-- A year in ASCII digits counts as one of the twentieth or twenty-first century. -/
theorem IsYear.ofDigitChars_bounds
    {text : Text}
    (isYear : IsYear text)
    (numerals : ∀ c ∈ text, c.isDigit = true) :
    1900 ≤ Nat.ofDigitChars 10 text 0 ∧ Nat.ofDigitChars 10 text 0 ≤ 2099 := by
  have code : ∀ c : Char, c.isDigit = true → 48 ≤ c.toNat ∧ c.toNat ≤ 57 := by
    intro c digit
    simpa [Char.isDigit, UInt32.le_iff_toNat_le] using digit
  obtain ⟨century, known, c, d, rfl, -⟩ := isYear
  have third := code c (numerals c (by simp))
  have fourth := code d (numerals d (by simp))
  simp only [List.mem_cons, List.not_mem_nil, or_false] at known
  rcases known with rfl | rfl
  all_goals
    simp [Nat.ofDigitChars_cons]
    omega

theorem IsYear.dropPlus_eq_self
    {text : Text}
    (isYear : IsYear text) :
    dropPlus text = text := by
  apply Text.dropPlus_eq_self
  intro plus
  exact absurd (isYear.isWordDigit (List.mem_of_head? plus)) (by decide)

/-- A year in ASCII digits has a value. -/
theorem exists_uint32?
    {text : Text}
    (isYear : IsYear text)
    (numerals : ∀ c ∈ text, c.isDigit = true) :
    ∃ value, uint32? text = some value := by
  have digits : natural? text = some (Nat.ofDigitChars 10 text 0) := by
    have all : text.all Char.isDigit = true := List.all_eq_true.2 numerals
    rw [natural?, all, List.isEmpty_eq_false_iff.2 isYear.ne_nil]
    rfl
  have small : Nat.ofDigitChars 10 text 0 < UInt32.size :=
    Nat.lt_of_le_of_lt (isYear.ofDigitChars_bounds numerals).2 (by decide)
  refine ⟨UInt32.ofNat (Nat.ofDigitChars 10 text 0), ?_⟩
  rw [uint32?, literalBelow?, isYear.dropPlus_eq_self, digits, Option.filter_some,
    if_pos (decide_eq_true small), Option.map_some]

/-- A text of four digits spells a year of the twentieth or twenty-first century. -/
def Spells (text : Text) (value : UInt32) : Prop :=
  IsYear text ∧ uint32? text = some value

/-- A year that is spelled lies in the twentieth or twenty-first century. -/
theorem Spells.bounds
    {text : Text}
    {value : UInt32}
    (spells : Spells text value) :
    1900 ≤ value ∧ value ≤ 2099 := by
  obtain ⟨isYear, read⟩ := spells
  obtain ⟨n, literal, rfl⟩ := Option.map_eq_some_iff.1 read
  obtain ⟨natural, small⟩ := Option.filter_eq_some_iff.1 literal
  rw [isYear.dropPlus_eq_self, natural?] at natural
  split at natural
  · next numerals =>
      cases natural
      rw [Bool.and_eq_true, List.all_eq_true] at numerals
      have toNat : (UInt32.ofNat (Nat.ofDigitChars 10 text 0)).toNat =
          Nat.ofDigitChars 10 text 0 :=
        UInt32.toNat_ofNat_of_lt' (of_decide_eq_true small)
      rw [UInt32.le_iff_toNat_le, UInt32.le_iff_toNat_le, toNat]
      exact isYear.ofDigitChars_bounds numerals.2
  · cases natural

end Years
end SearchPhrase
