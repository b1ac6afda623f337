import SearchPhrase.Proofs.Unicode.Lowercase

/-!
# Lower case of the parts of a text

Lower case looks at what surrounds a character only up to the next one that is no mark, so that a
text may be put into lower case in two parts wherever the second begins with white space.  Digits
come from digits only.
-/

namespace SearchPhrase
namespace Unicode

/-- Whether a character separates what surrounds it: it is neither cased nor a mark. -/
def separatesCase (c : Char) : Bool :=
  !isCaseIgnorable c && !isCased c

theorem casedFirst_append
    {c : Char}
    (separates : separatesCase c = true)
    (text rest : List Char) :
    casedFirst (text ++ c :: rest) = casedFirst text := by
  rw [separatesCase, Bool.and_eq_true, Bool.not_eq_true', Bool.not_eq_true'] at separates
  obtain ⟨visible, caseless⟩ := separates
  induction text with
  | nil => simp [casedFirst, visible, caseless]
  | cons d text ih =>
      by_cases ignored : isCaseIgnorable d = true
      · simpa [casedFirst, ignored] using ih
      · simp [casedFirst, ignored]

theorem lowercaseAfter_append
    {c : Char}
    (separates : separatesCase c = true)
    (before text rest : List Char) :
    lowercaseAfter before (text ++ c :: rest) =
      lowercaseAfter before text ++ lowercaseAfter (text.reverse ++ before) (c :: rest) := by
  induction text generalizing before with
  | nil => rfl
  | cons d text ih =>
      have sigma : sigmaBetween before (text ++ c :: rest) = sigmaBetween before text := by
        rw [sigmaBetween, sigmaBetween, casedFirst_append separates]
      rw [List.cons_append, lowercaseAfter, lowercaseAfter, sigma, ih]
      simp

/-- A text whose second part begins with a character that separates is put into lower case part by
part, as far as the second is ASCII. -/
theorem lowercase_append
    {c : Char}
    {rest : List Char}
    (separates : separatesCase c = true)
    (ascii : ∀ d ∈ c :: rest, d.toNat < 128)
    (text : List Char) :
    lowercase (text ++ c :: rest) = lowercase text ++ (c :: rest).map Char.toLower := by
  rw [lowercase, lowercaseAfter_append separates, lowercaseAfter_ascii _ ascii, lowercase]

theorem isDecimalDigit_eq_contains (c : Char) :
    isDecimalDigit c = decimalDigits.contains c.toNat := by
  by_cases ascii : c.toNat < 128
  · exact forall_ascii (P := fun c => isDecimalDigit c = decimalDigits.contains c.toNat)
      (by decide) ascii
  · exact if_neg ascii

theorem lowercaseRuns_avoid_decimalDigits :
    (lowercaseRuns.all fun run => decimalDigits.avoids run.image run.lastImage) = true := by
  decide +kernel

/-- What a run maps a code point to is no digit. -/
theorem isDecimalDigit_ofNat_map
    {run : CaseRun}
    {code : Nat}
    (member : run ∈ lowercaseRuns)
    (covered : run.covers code = true) :
    isDecimalDigit (Char.ofNat (run.map code)) = false := by
  by_cases valid : (run.map code).isValidChar
  · obtain ⟨first_le, le_last, -⟩ := CaseRun.covers_iff.1 covered
    rw [isDecimalDigit_eq_contains, toNat_ofNat_of_valid valid]
    apply InversionList.contains_eq_false_of_avoids
      (List.all_eq_true.1 lowercaseRuns_avoid_decimalDigits run member)
    · exact Nat.le_add_right _ _
    · rw [CaseRun.map, CaseRun.lastImage]
      omega
  · have other : Char.ofNat (run.map code) = Char.ofNat 0 := by
      rw [Char.ofNat, dif_neg valid]
      rfl
    rw [other]
    decide

theorem isDecimalDigit_of_mem_lowerChar
    {c d : Char}
    (member : d ∈ lowerChar c)
    (digit : isDecimalDigit d = true) :
    isDecimalDigit c = true := by
  rw [lowerChar] at member
  split at member
  · next ascii =>
      rw [List.mem_singleton.1 member] at digit
      have same : isDecimalDigit c.toLower = isDecimalDigit c :=
        forall_ascii (P := fun c => isDecimalDigit c.toLower = isDecimalDigit c) (by decide) ascii
      rwa [same] at digit
  · split at member
    · have apart : ∀ d ∈ ['i', Char.ofNat 0x307], isDecimalDigit d = false := by decide
      rw [apart d member] at digit
      cases digit
    · rw [List.mem_singleton.1 member] at digit
      rcases mapByRuns_cases lowercaseRuns c.toNat with unmoved | ⟨run, known, covered, same⟩
      · rwa [unmoved, Char.ofNat_toNat] at digit
      · rw [same, isDecimalDigit_ofNat_map known covered] at digit
        cases digit

/-- A digit in the lower-case form of a text comes from a digit of the text, whatever stands
before. -/
theorem isDecimalDigit_of_mem_lowercaseAfter
    {before text : List Char}
    {d : Char}
    (member : d ∈ lowercaseAfter before text)
    (digit : isDecimalDigit d = true) :
    ∃ c ∈ text, isDecimalDigit c = true := by
  induction text generalizing before with
  | nil => simp [lowercaseAfter] at member
  | cons c rest ih =>
      rw [lowercaseAfter, List.mem_append] at member
      rcases member with member | member
      · split at member
        · have apart : isDecimalDigit (sigmaBetween before rest) = false := by
            rw [sigmaBetween]
            split <;> decide
          rw [List.mem_singleton.1 member, apart] at digit
          cases digit
        · exact ⟨c, by simp, isDecimalDigit_of_mem_lowerChar member digit⟩
      · obtain ⟨other, known, isDigit⟩ := ih member
        exact ⟨other, List.mem_cons_of_mem c known, isDigit⟩

theorem isDecimalDigit_of_mem_lowercase
    {text : List Char}
    {d : Char}
    (member : d ∈ lowercase text)
    (digit : isDecimalDigit d = true) :
    ∃ c ∈ text, isDecimalDigit c = true :=
  isDecimalDigit_of_mem_lowercaseAfter member digit

end Unicode
end SearchPhrase
