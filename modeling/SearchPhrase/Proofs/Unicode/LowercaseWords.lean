import SearchPhrase.Proofs.Pattern.Folded
import SearchPhrase.Proofs.Unicode.LowercaseParts

/-!
# Lower case and the edges of words

Lower case leaves words where they are, but for two capitals that no pattern takes for parts of a
word although it does so for their small letters.  What the patterns of prices are made of (digits,
white space and ASCII characters) comes from nothing else than the characters that fold to it.
-/

namespace SearchPhrase
namespace Unicode

/-- Whether a set of code points holds everything from one code point to another. -/
def InversionList.spans : InversionList → Nat → Nat → Bool
  | start :: stop :: rest, low, high =>
      Nat.ble start low &&
        (Nat.blt high stop || Nat.ble stop low && InversionList.spans rest low high)
  | _, _, _ => false

theorem InversionList.contains_of_spans
    {list : InversionList}
    {low high code : Nat}
    (spans : list.spans low high = true)
    (low_le : low ≤ code)
    (le_high : code ≤ high) :
    list.contains code = true := by
  fun_induction list.spans low high with
  | case1 start stop rest low high ih =>
      simp only [Bool.and_eq_true, Bool.or_eq_true, Nat.blt_eq, Nat.ble_eq] at spans
      obtain ⟨begun, within | ⟨past, later⟩⟩ := spans
      · rw [contains, if_neg (by omega), if_pos (by omega)]
      · rw [contains, if_neg (by omega), if_neg (by omega)]
        exact ih later low_le le_high
  | case2 => cases spans

/-- Whether one page of a set holds everything from one code point to another. -/
def PagedSet.spans : PagedSet → Nat → Nat → Bool
  | [], _, _ => false
  | page :: pages, low, high =>
      Nat.blt high page.stop && page.members.spans low high ||
        Nat.ble page.stop low && PagedSet.spans pages low high

theorem PagedSet.contains_of_spans
    {pages : PagedSet}
    {low high code : Nat}
    (spans : pages.spans low high = true)
    (low_le : low ≤ code)
    (le_high : code ≤ high) :
    pages.contains code = true := by
  induction pages with
  | nil => cases spans
  | cons page pages ih =>
      simp only [PagedSet.spans, Bool.and_eq_true, Bool.or_eq_true, Nat.blt_eq, Nat.ble_eq] at spans
      rcases spans with ⟨before, members⟩ | ⟨past, later⟩
      · rw [contains, if_pos (by omega)]
        exact InversionList.contains_of_spans members low_le le_high
      · rw [contains, if_neg (by omega)]
        exact ih later

/-- Whether a capital is no part of a word for patterns although its small letter is. -/
def isLateCapital (c : Char) : Bool :=
  c.toNat == 0xA7D2 || c.toNat == 0xA7D4

namespace CaseRun

/-- The code points of a run. -/
def codes (run : CaseRun) : List Nat :=
  List.range' run.first ((run.last - run.first) / run.step + 1) run.step

theorem mem_codes
    {run : CaseRun}
    {code : Nat}
    (covered : run.covers code = true) :
    code ∈ run.codes := by
  obtain ⟨first_le, le_last, aligned⟩ := covers_iff.1 covered
  have whole := Nat.div_add_mod (code - run.first) run.step
  refine List.mem_range'.2 ⟨(code - run.first) / run.step, ?_, by omega⟩
  exact Nat.lt_succ_of_le (Nat.div_le_div_right (by omega))

/-- Whether everything from the first to the last code point of a run is a letter that may belong to
a word, and so is everything between their images. -/
def isOfLetters (run : CaseRun) : Bool :=
  alphabetic.spans run.first run.last && alphabetic.spans run.image run.lastImage &&
    recentCharacters.avoids run.first run.last && recentCharacters.avoids run.image run.lastImage

/-- Whether a run maps a code point to a letter, which belongs to words if the code point does. -/
def keepsWord (run : CaseRun) (code : Nat) : Bool :=
  let small := Char.ofNat (run.map code)
  isAlphabetic small &&
    (isWord small == isWord (Char.ofNat code) || isLateCapital (Char.ofNat code))

end CaseRun

/-- The few runs with gaps between their letters, or with recent letters, are gone through one code
point after another. -/
theorem lowercaseRuns_keepWords :
    (lowercaseRuns.all fun run => run.isOfLetters || run.codes.all run.keepsWord) = true := by
  decide +kernel

theorem isAlphabetic_eq_contains (c : Char) : isAlphabetic c = alphabetic.contains c.toNat := by
  by_cases ascii : c.toNat < 128
  · exact forall_ascii (P := fun c => isAlphabetic c = alphabetic.contains c.toNat) (by decide)
      ascii
  · exact if_neg ascii

theorem isWord_of_isAlphabetic
    {c : Char}
    (letter : isAlphabetic c = true)
    (old : isRecent c = false) :
    isWord c = true := by
  simp [isWord, letter, old]

/-- What a run maps a character to is a letter, which belongs to words if the character does. -/
theorem isAlphabetic_ofNat_map
    {run : CaseRun}
    {c : Char}
    (member : run ∈ lowercaseRuns)
    (covered : run.covers c.toNat = true) :
    isAlphabetic (Char.ofNat (run.map c.toNat)) = true ∧
      (isWord (Char.ofNat (run.map c.toNat)) = isWord c ∨ isLateCapital c = true) := by
  obtain ⟨first_le, le_last, -⟩ := CaseRun.covers_iff.1 covered
  have kept := List.all_eq_true.1 lowercaseRuns_keepWords run member
  rw [Bool.or_eq_true] at kept
  rcases kept with letters | kept
  · simp only [CaseRun.isOfLetters, Bool.and_eq_true] at letters
    obtain ⟨⟨⟨capitals, smalls⟩, old⟩, old'⟩ := letters
    have image_le := run.image_le_map c.toNat
    have le_image := CaseRun.map_le_lastImage covered
    have toNat := toNat_ofNat_map member covered
    have capital : isAlphabetic c = true := by
      rw [isAlphabetic_eq_contains]
      exact PagedSet.contains_of_spans capitals first_le le_last
    have small : isAlphabetic (Char.ofNat (run.map c.toNat)) = true := by
      rw [isAlphabetic_eq_contains, toNat]
      exact PagedSet.contains_of_spans smalls image_le le_image
    refine ⟨small, .inl ?_⟩
    rw [isWord_of_isAlphabetic capital, isWord_of_isAlphabetic small]
    · rw [isRecent, toNat]
      exact InversionList.contains_eq_false_of_avoids old' image_le le_image
    · exact InversionList.contains_eq_false_of_avoids old first_le le_last
  · have each := List.all_eq_true.1 kept c.toNat (CaseRun.mem_codes covered)
    rw [CaseRun.keepsWord, Char.ofNat_toNat, Bool.and_eq_true, Bool.or_eq_true, beq_iff_eq] at each
    exact each

/-- The lower-case form of a character between two texts, of which the first is given back to
front. -/
def lowerIn (before : List Char) (c : Char) (rest : List Char) : List Char :=
  if c = capitalSigma then [sigmaBetween before rest] else lowerChar c

theorem lowercaseAfter_cons_eq (before : List Char) (c : Char) (rest : List Char) :
    lowercaseAfter before (c :: rest) =
      lowerIn before c rest ++ lowercaseAfter (c :: before) rest :=
  rfl

section Places

variable {before rest : List Char} {c d : Char}

theorem lowerIn_ne_nil (before : List Char) (c : Char) (rest : List Char) :
    lowerIn before c rest ≠ [] := by
  rw [lowerIn]
  split
  · exact List.cons_ne_nil _ _
  · exact lowerChar_ne_nil c

/-- A character becomes a small letter that a run maps it to, unless it is an ASCII character, the
capital that becomes two, a sigma, or stays as it is. -/
theorem mem_lowerIn_cases (member : d ∈ lowerIn before c rest) :
    (c.toNat < 128 ∧ d = c.toLower) ∨ (c.toNat = 0x130 ∧ d ∈ ['i', Char.ofNat 0x307]) ∨
      (c = capitalSigma ∧ d ∈ [Char.ofNat 0x3C2, Char.ofNat 0x3C3]) ∨
      (128 ≤ c.toNat ∧ d = c) ∨
      ∃ run ∈ lowercaseRuns, run.covers c.toNat = true ∧ d = Char.ofNat (run.map c.toNat) := by
  rw [lowerIn] at member
  split at member
  · next sigma =>
      refine .inr (.inr (.inl ⟨sigma, ?_⟩))
      rw [List.mem_singleton.1 member, sigmaBetween]
      split <;> simp
  · rw [lowerChar] at member
    split at member
    · next ascii => exact .inl ⟨ascii, List.mem_singleton.1 member⟩
    · next beyond =>
        split at member
        · next dotted => exact .inr (.inl ⟨dotted, member⟩)
        · rw [List.mem_singleton.1 member]
          rcases mapByRuns_cases lowercaseRuns c.toNat with unmoved | ⟨run, known, covered, same⟩
          · rw [unmoved, Char.ofNat_toNat]
            exact .inr (.inr (.inr (.inl ⟨by omega, rfl⟩)))
          · rw [same]
            exact .inr (.inr (.inr (.inr ⟨run, known, covered, rfl⟩)))

/-- Lower case keeps the characters of words, and those that belong to no word other than two late
capitals. -/
theorem isWord_of_mem_lowerIn (member : d ∈ lowerIn before c rest) :
    isWord d = isWord c ∨ (isWord c = false ∧ isLateCapital c = true) := by
  rcases mem_lowerIn_cases member with ⟨ascii, rfl⟩ | ⟨dotted, known⟩ | ⟨rfl, known⟩ | ⟨-, rfl⟩ |
    ⟨run, known, covered, rfl⟩
  · exact .inl (forall_ascii (P := fun c => isWord c.toLower = isWord c) (by decide) ascii)
  · have words : ∀ d ∈ ['i', Char.ofNat 0x307], isWord d = true := by decide
    have same : c = Char.ofNat 0x130 := by rw [← dotted, Char.ofNat_toNat]
    rw [words d known, same]
    exact .inl (by decide)
  · have words : ∀ d ∈ [Char.ofNat 0x3C2, Char.ofNat 0x3C3], isWord d = isWord capitalSigma := by
      decide
    exact .inl (words d known)
  · exact .inl rfl
  · refine (isAlphabetic_ofNat_map known covered).2.imp_right fun late => ⟨?_, late⟩
    have codes : ∀ code ∈ [0xA7D2, 0xA7D4], isWord (Char.ofNat code) = false := by decide
    rw [← Char.ofNat_toNat c]
    apply codes
    simpa [isLateCapital] using late

/-- Lower case keeps letters and numbers that belong to no word. -/
theorem isAlphanumeric_of_mem_lowerIn
    (member : d ∈ lowerIn before c rest)
    (notWord : isWord c = false)
    (known : isAlphanumeric c = true) :
    isAlphanumeric d = true := by
  rcases mem_lowerIn_cases member with ⟨ascii, rfl⟩ | ⟨dotted, -⟩ | ⟨rfl, -⟩ | ⟨-, rfl⟩ |
    ⟨run, inRuns, covered, rfl⟩
  · have same : isAlphanumeric c.toLower = isAlphanumeric c :=
      forall_ascii (P := fun c => isAlphanumeric c.toLower = isAlphanumeric c) (by decide) ascii
    rwa [same]
  · have same : c = Char.ofNat 0x130 := by rw [← dotted, Char.ofNat_toNat]
    rw [same] at notWord
    exact absurd notWord (by decide)
  · exact absurd notWord (by decide)
  · exact known
  · simp [isAlphanumeric, (isAlphabetic_ofNat_map inRuns covered).1]

/-- Whether a character is a digit, white space or an ASCII character. -/
def isBasic (c : Char) : Bool :=
  isWordDigit c || isWhiteSpace c || decide (c.toNat < 128)

theorem lowercaseRuns_avoid_basic :
    (lowercaseRuns.all fun run => decimalDigits.avoids run.first run.last &&
      whiteSpace.avoids run.first run.last && Nat.ble 128 run.first &&
      (Nat.ble 128 run.image || Nat.beq run.first 0x212A && Nat.beq run.last 0x212A)) = true := by
  decide +kernel

/-- No digit or white space lies on a run. -/
theorem not_covers_of_isBasic
    {run : CaseRun}
    (member : run ∈ lowercaseRuns)
    (basic : isBasic c = true) :
    run.covers c.toNat = false := by
  apply Bool.eq_false_iff.2
  intro covered
  obtain ⟨first_le, le_last, -⟩ := CaseRun.covers_iff.1 covered
  have avoids := List.all_eq_true.1 lowercaseRuns_avoid_basic run member
  simp only [Bool.and_eq_true, Nat.ble_eq] at avoids
  obtain ⟨⟨⟨digits, spaces⟩, beyond⟩, -⟩ := avoids
  simp only [isBasic, Bool.or_eq_true, decide_eq_true_eq] at basic
  rcases basic with (digit | space) | ascii
  · rw [isWordDigit, Bool.and_eq_true, isDecimalDigit_eq_contains,
      InversionList.contains_eq_false_of_avoids digits first_le le_last] at digit
    exact absurd digit.1 (by decide)
  · rw [isWhiteSpace, InversionList.contains_eq_false_of_avoids spaces first_le le_last] at space
    cases space
  · omega

/-- What a run maps to a digit, white space or an ASCII character is the Kelvin sign. -/
theorem eq_kelvin_of_isBasic_map
    {run : CaseRun}
    (member : run ∈ lowercaseRuns)
    (covered : run.covers c.toNat = true)
    (basic : isBasic (Char.ofNat (run.map c.toNat)) = true) :
    c = Char.ofNat 0x212A := by
  obtain ⟨first_le, le_last, -⟩ := CaseRun.covers_iff.1 covered
  have avoids := List.all_eq_true.1 lowercaseRuns_avoid_basic run member
  have image_le := run.image_le_map c.toNat
  simp only [isBasic, Bool.or_eq_true, decide_eq_true_eq] at basic
  rcases basic with (digit | space) | ascii
  · rw [isWordDigit, isDecimalDigit_ofNat_map member covered] at digit
    cases digit
  · rw [(isSettled_ofNat_map member covered).2] at space
    cases space
  · rw [toNat_ofNat_map member covered] at ascii
    simp only [Bool.and_eq_true, Bool.or_eq_true, Nat.ble_eq, Nat.beq_eq] at avoids
    have code : c.toNat = 0x212A := by omega
    rw [← code, Char.ofNat_toNat]

theorem foldCase_ascii (ascii : c.toNat < 128) : CharClass.foldCase c = c.toLower := by
  have kelvin : c ≠ Char.ofNat 0x212A := by
    rintro rfl
    exact absurd ascii (by decide)
  have longS : c ≠ Char.ofNat 0x17F := by
    rintro rfl
    exact absurd ascii (by decide)
  rw [CharClass.foldCase, if_neg kelvin, if_neg longS]

theorem foldCase_of_isBasic
    (beyond : ¬c.toNat < 128)
    (basic : isBasic c = true) :
    CharClass.foldCase c = c := by
  have kelvin : c ≠ Char.ofNat 0x212A := by
    rintro rfl
    exact absurd basic (by decide)
  have longS : c ≠ Char.ofNat 0x17F := by
    rintro rfl
    exact absurd basic (by decide)
  rw [CharClass.foldCase, if_neg kelvin, if_neg longS, Text.toLower_of_not_ascii beyond]

/-- A single character becomes two in lower case. -/
theorem exists_lowerIn_eq_singleton
    (single : c ≠ Char.ofNat 0x130)
    (before rest : List Char) :
    ∃ d, lowerIn before c rest = [d] := by
  have code : c.toNat ≠ 0x130 := by
    intro same
    rw [← same, Char.ofNat_toNat] at single
    exact single rfl
  rw [lowerIn]
  split
  · exact ⟨_, rfl⟩
  · rw [lowerChar, if_neg code]
    split <;> exact ⟨_, rfl⟩

theorem lowerIn_kelvin (before rest : List Char) :
    lowerIn before (Char.ofNat 0x212A) rest = ['k'] := by
  have letter : lowerChar (Char.ofNat 0x212A) = ['k'] := by decide +kernel
  rw [lowerIn, if_neg (by decide), letter]

/-- A digit, white space or an ASCII character other than "i" in the lower-case form of a character
is all of that form, and what the character folds to. -/
theorem foldCase_of_mem_lowerIn
    (member : d ∈ lowerIn before c rest)
    (basic : isBasic d = true)
    (notDotted : d ≠ 'i') :
    CharClass.foldCase c = d ∧ lowerIn before c rest = [d] := by
  by_cases dotted : c = Char.ofNat 0x130
  · rw [dotted] at member
    have known : ∀ d ∈ ['i', Char.ofNat 0x307], isBasic d = true → d = 'i' := by decide
    exact absurd (known d member basic) notDotted
  · obtain ⟨e, whole⟩ := exists_lowerIn_eq_singleton dotted before rest
    obtain rfl : d = e := by
      rw [whole] at member
      exact List.mem_singleton.1 member
    refine ⟨?_, whole⟩
    rcases mem_lowerIn_cases member with ⟨ascii, rfl⟩ | ⟨dotted', -⟩ | ⟨-, known⟩ | ⟨beyond, rfl⟩ |
      ⟨run, known, covered, rfl⟩
    · exact foldCase_ascii ascii
    · exact absurd (by rw [← dotted', Char.ofNat_toNat]) dotted
    · have apart : ∀ d ∈ [Char.ofNat 0x3C2, Char.ofNat 0x3C3], isBasic d = false := by decide
      rw [apart d known] at basic
      cases basic
    · exact foldCase_of_isBasic (by omega) basic
    · have kelvin := eq_kelvin_of_isBasic_map known covered basic
      rw [kelvin, lowerIn_kelvin] at whole
      rw [kelvin, ← (List.cons.inj whole).1]
      rfl

/-- A character that folds to a digit, white space or an ASCII character becomes that in lower case,
unless it is the long s. -/
theorem lowerIn_of_isBasic
    (basic : isBasic (CharClass.foldCase c) = true)
    (longS : c ≠ Char.ofNat 0x17F)
    (before rest : List Char) :
    lowerIn before c rest = [CharClass.foldCase c] := by
  by_cases kelvin : c = Char.ofNat 0x212A
  · rw [kelvin, lowerIn_kelvin]
    rfl
  · by_cases ascii : c.toNat < 128
    · have notSigma : c ≠ capitalSigma := by
        rintro rfl
        exact absurd ascii (by decide)
      rw [foldCase_ascii ascii, lowerIn, if_neg notSigma, lowerChar_ascii ascii]
    · have unfolded : CharClass.foldCase c = c := by
        rw [CharClass.foldCase, if_neg kelvin, if_neg longS, Text.toLower_of_not_ascii ascii]
      rw [unfolded] at basic ⊢
      have notSigma : c ≠ capitalSigma := by
        rintro rfl
        exact absurd basic (by decide)
      have notDotted : c.toNat ≠ 0x130 := by
        intro dotted
        have same : c = Char.ofNat 0x130 := by rw [← dotted, Char.ofNat_toNat]
        rw [same] at basic
        exact absurd basic (by decide)
      rw [lowerIn, if_neg notSigma, lowerChar, if_neg ascii, if_neg notDotted]
      rcases mapByRuns_cases lowercaseRuns c.toNat with unmoved | ⟨run, known, covered, -⟩
      · rw [unmoved, Char.ofNat_toNat]
      · rw [not_covers_of_isBasic known basic] at covered
        cases covered

end Places

end Unicode
end SearchPhrase
