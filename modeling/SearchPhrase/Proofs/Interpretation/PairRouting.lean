import SearchPhrase.Proofs.Phrase.LonePair
import SearchPhrase.Proofs.Text.Lowered

/-!
# Where a pair of years goes

The one figure of a phrase, a pair of years in ascending order, sets both bounds of the years and no
other bound, whatever words stand around it.  Only a word that makes the first year the end of a
range is in the way.
-/

namespace SearchPhrase

open Cursor Pattern Text Unicode

namespace Unicode

/-- Whether a character is a digit, white space, or a character of the mark of a range. -/
def isOfPair (c : Char) : Bool :=
  isWordDigit c || isWhiteSpace c || ['-', 't', 'o'].contains c

variable {c : Char}

theorem isBasic_of_isOfPair (ofPair : isOfPair c = true) : isBasic c = true := by
  simp only [isOfPair, Bool.or_eq_true] at ofPair
  rcases ofPair with (digit | space) | mark
  · simp [isBasic, digit]
  · simp [isBasic, space]
  · have marks : ∀ c ∈ ['-', 't', 'o'], isBasic c = true := by decide
    exact marks c (List.contains_iff_mem.1 mark)

theorem foldCase_eq_self_of_isOfPair (ofPair : isOfPair c = true) : CharClass.foldCase c = c := by
  by_cases ascii : c.toNat < 128
  · rw [foldCase_ascii ascii]
    exact forall_ascii (P := fun c => isOfPair c = true → c.toLower = c) (by decide) ascii ofPair
  · exact foldCase_of_isBasic ascii (isBasic_of_isOfPair ofPair)

/-- Digits separate what surrounds them. -/
theorem separatesCase_of_isDigit (digit : c.isDigit = true) : separatesCase c = true :=
  forall_ascii (P := fun c => c.isDigit = true → separatesCase c = true) (by decide)
    (ascii_of_isDigit digit) digit

theorem lowerIn_of_isOfPair
    (ofPair : isOfPair c = true)
    (before rest : List Char) :
    lowerIn before c rest = [c] := by
  have folds := foldCase_eq_self_of_isOfPair ofPair
  have short : c ≠ Char.ofNat 0x17F := by
    rintro rfl
    exact absurd folds (by decide)
  have form := lowerIn_of_isBasic (folds.symm ▸ isBasic_of_isOfPair ofPair) short before rest
  rwa [folds] at form

end Unicode

/-- What such characters make up is its own lower-case form. -/
theorem Stretch.body_lowered_eq_self
    {text : Text}
    {stretch : Stretch text}
    (ofPair : ∀ c ∈ stretch.body, isOfPair c = true) :
    stretch.lowered.body = stretch.body := by
  have folds : ∀ c ∈ stretch.body, CharClass.foldCase c = c := fun c member =>
    foldCase_eq_self_of_isOfPair (ofPair c member)
  have basic : ∀ c ∈ stretch.body, isBasic (CharClass.foldCase c) = true := by
    intro c member
    rw [folds c member]
    exact isBasic_of_isOfPair (ofPair c member)
  have short : Char.ofNat 0x17F ∉ stretch.body := fun member =>
    absurd (folds _ member) (by decide)
  rw [body_lowered basic short]
  exact (List.map_congr_left folds).trans (List.map_id' _)

namespace Years

theorem numerals_of_years :
    ∀ n < 200, (∃ century ∈ ["19", "20"], century.toList <+: numeral (1900 + n)) ∧
      (numeral (1900 + n)).length = 4 := by
  decide +kernel

/-- The numerals from 1900 to 2099 have the form of years. -/
theorem isYear_numeral
    {n : Nat}
    (early : 1900 ≤ n)
    (late : n ≤ 2099) :
    IsYear (numeral n) := by
  obtain ⟨⟨century, known, rest, whole⟩, four⟩ := numerals_of_years (n - 1900) (by omega)
  rw [Nat.add_sub_cancel' early] at whole four
  have centuries : ∀ century ∈ ["19", "20"], century.toList.length = 2 := by decide
  rw [← whole, List.length_append, centuries century known] at four
  obtain ⟨c, d, rfl⟩ : ∃ c d, rest = [c, d] := by
    rcases rest with _ | ⟨c, _ | ⟨d, _ | ⟨e, others⟩⟩⟩
    · simp at four
    · simp at four
    · exact ⟨c, d, rfl⟩
    · simp only [List.length_cons] at four
      omega
  have digits : ∀ c ∈ numeral n, isWordDigit c = true := by
    intro c member
    have digit := isDigit_of_mem_numeral member
    rwa [isWordDigit_ascii (ascii_of_isDigit digit)]
  exact ⟨century, known, c, d, whole.symm, digits c (by simp [← whole]),
    digits d (by simp [← whole])⟩

/-- A numeral from 1900 to 2099 spells its number as a year. -/
theorem spells_numeral
    {value : UInt32}
    (early : 1900 ≤ value)
    (late : value ≤ 2099) :
    Spells (numeral value.toNat) value :=
  ⟨isYear_numeral (UInt32.le_iff_toNat_le.1 early) (UInt32.le_iff_toNat_le.1 late),
    uint32?_numeral value⟩

end Years

/-- A phrase with two years in ascending order, the mark of a range between them, white space
between the pair and the words around it, and no other digits. -/
structure PairPhrase where
  /-- The text before the pair. -/
  opening : Text
  /-- The first year. -/
  low : UInt32
  /-- The white space after it. -/
  gap : Text
  /-- The mark. -/
  mark : Text
  /-- The white space after the mark. -/
  gap' : Text
  /-- The second year. -/
  high : UInt32
  /-- The text after the pair. -/
  ending : Text
  /-- There is no digit before the pair. -/
  free : ∀ c ∈ opening, isDecimalDigit c = false
  /-- If anything stands before the pair, white space comes last. -/
  spaced : ∀ c ∈ opening.getLast?, isWhiteSpace c = true
  /-- The first year is not too early. -/
  early : 1900 ≤ low
  /-- There is only white space before the mark. -/
  blank : isBlank gap = true
  /-- The mark is one of two. -/
  known : mark = ['-'] ∨ mark = ['t', 'o']
  /-- There is only white space after the mark. -/
  blank' : isBlank gap' = true
  /-- The years are in ascending order. -/
  ascending : low ≤ high
  /-- The second year is not too late. -/
  late : high ≤ 2099
  /-- There is no digit after the pair. -/
  free' : ∀ c ∈ ending, isDecimalDigit c = false
  /-- If anything follows the pair, white space comes first. -/
  spaced' : ∀ c ∈ ending.head?, isWhiteSpace c = true

namespace PairPhrase

variable (phrase : PairPhrase)

/-- The pair itself. -/
def pair : Text :=
  numeral phrase.low.toNat ++
    ((phrase.gap ++ (phrase.mark ++ phrase.gap')) ++ numeral phrase.high.toNat)

/-- The text of a phrase. -/
def text : Text :=
  phrase.opening ++ (phrase.pair ++ phrase.ending)

/-- The stretch of the pair. -/
def stretch : Stretch phrase.text where
  before := phrase.opening
  body := phrase.pair
  after := phrase.ending
  whole := rfl

theorem isOfPair_of_mem {c : Char} (member : c ∈ phrase.pair) : isOfPair c = true := by
  have digits : ∀ n, ∀ c ∈ numeral n, isOfPair c = true := by
    intro n c member
    have digit := isDigit_of_mem_numeral member
    simp [isOfPair, isWordDigit_ascii (ascii_of_isDigit digit), digit]
  have spaces : ∀ {gap : Text}, isBlank gap = true → ∀ c ∈ gap, isOfPair c = true := by
    intro gap blank c member
    simp [isOfPair, isBlank_iff.1 blank c member]
  have marks : ∀ mark, mark = ['-'] ∨ mark = ['t', 'o'] → ∀ c ∈ mark, isOfPair c = true := by
    rintro mark (rfl | rfl) <;> decide
  simp only [pair, List.mem_append] at member
  rcases member with member | (member | member | member) | member
  · exact digits _ c member
  · exact spaces phrase.blank c member
  · exact marks _ phrase.known c member
  · exact spaces phrase.blank' c member
  · exact digits _ c member

/-- Lower case leaves the pair as it is. -/
theorem body_lowered : phrase.stretch.lowered.body = phrase.pair :=
  Stretch.body_lowered_eq_self fun _ => phrase.isOfPair_of_mem

theorem before_lowered : phrase.stretch.lowered.before = lowercase phrase.opening := by
  obtain ⟨c, rest, shape⟩ := List.exists_cons_of_ne_nil (numeral_ne_nil phrase.low.toNat)
  have digit : c.isDigit = true := isDigit_of_mem_numeral (by rw [shape]; simp)
  apply Stretch.before_lowered_eq_lowercase (separatesCase_of_isDigit digit)
  change phrase.pair = _
  rw [pair, shape]
  exact List.cons_append ..

/-- Without digits a phrase has none in lower case. -/
theorem isWordDigit_eq_false
    {before text : Text}
    (free : ∀ c ∈ text, isDecimalDigit c = false) :
    ∀ c ∈ lowercaseAfter before text, isWordDigit c = false := by
  intro c member
  apply Bool.eq_false_iff.2
  intro digit
  rw [isWordDigit, Bool.and_eq_true] at digit
  obtain ⟨d, known, isDigit⟩ := isDecimalDigit_of_mem_lowercaseAfter member digit.1
  rw [free d known] at isDigit
  cases isDigit

theorem fresh_lowered : startsWithWord (lowercase phrase.opening).reverse = false := by
  have capitals : ∀ code ∈ [0xA7D2, 0xA7D4], isWhiteSpace (Char.ofNat code) = false := by decide
  rw [← before_lowered]
  have fresh : startsWithWord phrase.opening.reverse = false := by
    cases shape : phrase.opening.reverse with
    | nil => rfl
    | cons c rest =>
        exact isWord_of_isWhiteSpace (phrase.spaced c (by simp [← List.head?_reverse, shape]))
  rcases phrase.stretch.before_lowered_cases with same | ⟨-, c, last, odd⟩
  · rw [same]
    exact fresh
  · have space := phrase.spaced c last
    rw [← Char.ofNat_toNat c, capitals c.toNat (by simpa [isLateCapital] using odd)] at space
    cases space

theorem spaced_lowered : ∀ c ∈ phrase.stretch.lowered.after.head?, isWhiteSpace c = true := by
  rw [Stretch.after_lowered]
  change ∀ c ∈ (lowercaseAfter _ phrase.ending).head?, _
  cases shape : phrase.ending with
  | nil => simp [lowercaseAfter]
  | cons c rest =>
      have space : isWhiteSpace c = true := phrase.spaced' c (by rw [shape]; rfl)
      rw [lowercaseAfter_cons_eq, lowerIn_of_isOfPair (by simp [isOfPair, space])]
      simpa using space

/-- In lower case the phrase holds the pair and no other digits. -/
def lonePair : LonePair (lowercase phrase.text) where
  lead := lowercase phrase.opening
  first := numeral phrase.low.toNat
  joint := phrase.gap ++ (phrase.mark ++ phrase.gap')
  second := numeral phrase.high.toNat
  rest := phrase.stretch.lowered.after
  low := phrase.low
  high := phrase.high
  free := isWordDigit_eq_false phrase.free
  fresh := phrase.fresh_lowered
  spells := Years.spells_numeral phrase.early (UInt32.le_trans phrase.ascending phrase.late)
  isJoint := .mark phrase.blank phrase.known phrase.blank'
  spells' := Years.spells_numeral (UInt32.le_trans phrase.early phrase.ascending) phrase.late
  ascending := phrase.ascending
  free' := isWordDigit_eq_false phrase.free'
  spaced := phrase.spaced_lowered
  whole := by
    have whole := phrase.stretch.lowered.whole
    rw [before_lowered, body_lowered, pair] at whole
    simpa only [List.append_assoc] using whole

end PairPhrase

namespace Interpretation

/-- A pair of years that no word before it makes the end of a range sets both bounds of the years,
and neither the distance nor the price is bounded. -/
theorem bounds_of_pairPhrase
    (phrase : PairPhrase)
    (unled : ∀ word ∈ ["before", "until"],
      ¬word.toList <:+ trimEnd (lowercase phrase.opening)) :
    (ofPhrase (String.ofList phrase.text)).filters.year =
        { lower := some phrase.low, upper := some phrase.high } ∧
      (ofPhrase (String.ofList phrase.text)).filters.odometer = .unbounded ∧
      (ofPhrase (String.ofList phrase.text)).filters.price = .unbounded := by
  obtain ⟨years, claimed⟩ := phrase.lonePair.read_years unled
  have bounds : ∀ text, (ofPhrase (String.ofList text)).filters.year =
        (Years.read (lowercase text)).bounds ∧
      (ofPhrase (String.ofList text)).filters.odometer = (Mileage.read (lowercase text)).bounds ∧
      (ofPhrase (String.ofList text)).filters.price = (openPrices (lowercase text)).bounds := by
    intro text
    simp [ofPhrase, filtersOf]
  obtain ⟨year, odometer, price⟩ := bounds phrase.text
  rw [year, odometer, price]
  refine ⟨years, phrase.lonePair.bounds_mileage, ?_⟩
  exact phrase.lonePair.bounds_budget (List.mem_append_left _ claimed)

/-- A phrase about vehicles with a limit, a dollar sign and a unit around its pair of years. -/
def vansUnderYears : PairPhrase where
  opening := "Vans under $ ".toList
  low := 2015
  gap := [' ']
  mark := ['t', 'o']
  gap' := [' ']
  high := 2020
  ending := " km or below".toList
  free := by decide
  spaced := by decide
  early := by decide
  blank := rfl
  known := .inr rfl
  blank' := rfl
  ascending := by decide
  late := by decide
  free' := by decide
  spaced' := by decide

theorem bounds_of_pairPhrase_vans :
    String.ofList vansUnderYears.text = "Vans under $ 2015 to 2020 km or below" ∧
      (ofPhrase (String.ofList vansUnderYears.text)).filters.year =
          { lower := some 2015, upper := some 2020 } ∧
        (ofPhrase (String.ofList vansUnderYears.text)).filters.odometer = .unbounded ∧
        (ofPhrase (String.ofList vansUnderYears.text)).filters.price = .unbounded := by
  have unled : ∀ word ∈ ["before", "until"],
      ¬word.toList <:+ trimEnd (lowercase vansUnderYears.opening) := by
    decide +kernel
  exact ⟨by decide +kernel, bounds_of_pairPhrase vansUnderYears unled⟩

end Interpretation
end SearchPhrase
