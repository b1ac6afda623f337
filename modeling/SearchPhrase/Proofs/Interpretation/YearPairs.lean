import SearchPhrase.Proofs.Pattern.Occurrences
import SearchPhrase.Proofs.Phrase.YearForms

/-!
# Pairs of years and prices

Two years with the mark of a range between them have the form of a bare range of prices too, and the
only thing that keeps them from being read as one is that years are claimed first.  The later of the
two stands alone wherever the pair would pass for a price, so that it is claimed unless years have
been read elsewhere in the phrase.
-/

namespace SearchPhrase

open Cursor Pattern Text Unicode

/-- A range is claimed where nothing has been read. -/
theorem Reading.spans_claimRange
    {α : Type}
    [LT α]
    [DecidableLT α]
    {reading : Reading α}
    {low high : α}
    {span : Span}
    (nothing : reading.isNothing = true) :
    (reading.claimRange low high span).spans = reading.spans ++ [span] := by
  obtain ⟨⟨lower, upper⟩, spans⟩ := reading
  simp only [isNothing, Bounds.isUnbounded, Bool.and_eq_true, Option.isNone_iff_eq_none] at nothing
  obtain ⟨rfl, rfl⟩ := nothing
  rfl

namespace Years

/-- Years are claimed where a year that stands alone can be read. -/
theorem spans_ne_nil_of_loneYear
    {text : Text}
    {found : Match}
    {value : UInt32}
    (member : found ∈ loneYear.findAll text)
    (year : recordedYear? found .left = some value)
    (alone : standsAlone found = true) :
    (read text).spans ≠ [] := by
  intro empty
  have nothing : (read text).isNothing = true := (isBuilt_read text).isNothing empty
  rw [read, readLone] at empty nothing
  have lone : loneYear? found = some (value, found.span) := by
    rw [loneYear?, year, Option.bind_eq_bind, Option.bind_some, if_pos alone]
  cases first : (loneYear.findAll text).findSome? loneYear? with
  | none =>
      have absent := List.findSome?_eq_none_iff.1 first found member
      rw [lone] at absent
      cases absent
  | some claim =>
      rw [first] at empty nothing
      split at nothing
      · next open' =>
          rw [if_pos open', Reading.spans_claimRange open'] at empty
          simp at empty
      · next closed => exact closed nothing

end Years

theorem ne_mark_of_isBlank
    {gap : Text}
    {c : Char}
    (blank : isBlank gap = true)
    (member : c ∈ gap) :
    c ≠ '-' ∧ c ≠ 't' := by
  have space := isBlank_iff.1 blank c member
  constructor
  · rintro rfl
    exact absurd space (by decide)
  · rintro rfl
    exact absurd space (by decide)

/-- Two years with the mark of a range between them, as a part of a text. -/
structure YearPair (text : Text) where
  /-- The text before the pair. -/
  before : Text
  /-- The first year. -/
  first : Text
  /-- The white space after it. -/
  gap : Text
  /-- The mark. -/
  mark : Text
  /-- The white space before the second year. -/
  gap' : Text
  /-- The second year. -/
  second : Text
  /-- The text after the pair. -/
  after : Text
  /-- The first year has the form of one. -/
  isYear : Years.IsYear first
  /-- There is only white space after it. -/
  blank : isBlank gap = true
  /-- The mark is a dash, or a word apart from the second year. -/
  known : mark = ['-'] ∨ (mark = ['t', 'o'] ∧ gap' ≠ [])
  /-- There is only white space after the mark. -/
  blank' : isBlank gap' = true
  /-- The second year has the form of one. -/
  isYear' : Years.IsYear second
  /-- The second year is written in ASCII digits. -/
  numerals : ∀ c ∈ second, c.isDigit = true
  /-- No word goes on from the second year. -/
  ended : startsWithWord after = false
  /-- The parts make up the text. -/
  whole : before ++ (first ++ (gap ++ (mark ++ (gap' ++ second))) ++ after) = text

namespace YearPair

variable {text : Text} (pair : YearPair text)

/-- The stretch that a pair takes up. -/
def stretch : Stretch text where
  before := pair.before
  body := pair.first ++ (pair.gap ++ (pair.mark ++ (pair.gap' ++ pair.second)))
  after := pair.after
  whole := pair.whole

/-- The mark begins with a character that is no part of an amount. -/
theorem exists_mark : ∃ c rest, pair.mark = c :: rest ∧ (c = '-' ∨ c = 't') := by
  rcases pair.known with dash | ⟨word, -⟩
  · exact ⟨'-', [], dash, .inl rfl⟩
  · exact ⟨'t', ['o'], word, .inr rfl⟩

/-- A part of a text that holds a pair has its mark after the first digit. -/
theorem exists_mark_of_append
    {front rest head tail : Text}
    (free : ∀ c ∈ front, isWordDigit c = false)
    (whole : front ++ rest = head ++ (pair.stretch.body ++ tail)) :
    '-' ∈ rest ∨ 't' ∈ rest := by
  obtain ⟨c, others, mark, known⟩ := pair.exists_mark
  have digit := pair.isYear.startsWithDigit (pair.gap ++ (pair.mark ++ (pair.gap' ++
    (pair.second ++ tail))))
  have same : head ++ (pair.first ++ (pair.gap ++ (pair.mark ++ (pair.gap' ++
      (pair.second ++ tail))))) = front ++ rest := by
    rw [whole]
    simp [stretch]
  obtain ⟨part, -, rfl⟩ := exists_past_of_startsWithDigit digit free same
  rcases known with rfl | rfl
  · exact .inl (by simp [mark])
  · exact .inr (by simp [mark])

/-- An amount holds no mark of a range. -/
theorem ne_mark_of_mem_sum
    {sum : Figure.Sum}
    {c : Char}
    (member : c ∈ sum.text) :
    c ≠ '-' ∧ c ≠ 't' := by
  rcases List.mem_append.1 member with member | member
  · rcases sum.isSign with none | ⟨gap, some, blank⟩
    · simp [none] at member
    · rw [some] at member
      rcases List.mem_cons.1 member with rfl | member
      · decide
      · exact ne_mark_of_isBlank blank member
  · rcases List.mem_append.1 member with member | member
    · rcases sum.isNumber.mem member with digit | rfl | rfl
      · constructor
        · rintro rfl
          exact absurd digit (by decide)
        · rintro rfl
          exact absurd digit (by decide)
      · decide
      · decide
    · rcases sum.isLetter with none | thousands | millions
      · simp [none] at member
      · rw [thousands, List.mem_singleton] at member
        subst member
        decide
      · rw [millions, List.mem_singleton] at member
        subst member
        decide

/-- A limit with an amount holds no pair. -/
theorem not_within_limit
    {side : Figure.Side}
    {found : Match}
    {head tail : Text}
    (form : Budget.LimitForm side found) :
    found.text ≠ head ++ (pair.stretch.body ++ tail) := by
  intro split
  have free : ∀ c ∈ form.words ++ form.gap, isWordDigit c = false := fun _ =>
    form.announces.isWordDigit_append form.blank
  have whole : form.words ++ form.gap ++ form.sum.text = head ++ (pair.stretch.body ++ tail) := by
    rw [← split, form.whole, List.append_assoc]
  rcases pair.exists_mark_of_append free whole with dash | word
  · exact (ne_mark_of_mem_sum dash).1 rfl
  · exact (ne_mark_of_mem_sum word).2 rfl

/-- An amount between two others holds no pair. -/
theorem not_within_between
    {found : Match}
    {head tail : Text}
    (form : Budget.BetweenForm found) :
    found.text ≠ head ++ (pair.stretch.body ++ tail) := by
  intro split
  have free : ∀ c ∈ "between".toList ++ form.gap, isWordDigit c = false := by
    intro c member
    rcases List.mem_append.1 member with member | member
    · have letters : ∀ c ∈ "between".toList, isWordDigit c = false := by decide
      exact letters c member
    · exact isWordDigit_of_isBlank form.blank member
  have whole : "between".toList ++ form.gap ++ (form.first.text ++ (form.gap' ++ ("and".toList ++
      (form.gap'' ++ form.second.text)))) = head ++ (pair.stretch.body ++ tail) := by
    rw [← split, form.whole, List.append_assoc]
  have markless : ∀ c ∈ form.first.text ++ (form.gap' ++ ("and".toList ++ (form.gap'' ++
      form.second.text))), c ≠ '-' ∧ c ≠ 't' := by
    intro c member
    simp only [List.mem_append] at member
    rcases member with member | member | member | member | member
    · exact ne_mark_of_mem_sum member
    · exact ne_mark_of_isBlank form.blank' member
    · have letters : ∀ c ∈ "and".toList, c ≠ '-' ∧ c ≠ 't' := by decide
      exact letters c member
    · exact ne_mark_of_isBlank form.blank'' member
    · exact ne_mark_of_mem_sum member
  rcases pair.exists_mark_of_append free whole with dash | word
  · exact (markless _ dash).1 rfl
  · exact (markless _ word).2 rfl

/-- There is no digit between the numbers of a bare range. -/
theorem isWordDigit_of_mem_between
    {found : Match}
    {c : Char}
    (form : Budget.RangeForm found)
    (member : c ∈ form.gap ++ (form.mark ++ (form.gap' ++ form.second.sign))) :
    isWordDigit c = false := by
  simp only [← List.append_assoc] at member
  rcases List.mem_append.1 member with member | member
  · rw [List.append_assoc] at member
    exact Figure.isWordDigit_of_mem_mark form.blank form.known form.blank' member
  · exact form.second.isSign.isWordDigit member

/-- What follows a pair within a bare range goes on with the second number of the range. -/
theorem subset_of_within_range
    {found : Match}
    {head tail : Text}
    (form : Budget.RangeForm found)
    (split : found.text = head ++ (pair.stretch.body ++ tail)) :
    tail ⊆ form.second.digits ++ form.second.letter := by
  obtain ⟨c, others, mark, known⟩ := pair.exists_mark
  have absent : c ∉ form.first.text := by
    intro member
    rcases known with rfl | rfl
    · exact (ne_mark_of_mem_sum member).1 rfl
    · exact (ne_mark_of_mem_sum member).2 rfl
  have whole : form.first.text ++ (form.gap ++ (form.mark ++ (form.gap' ++ form.second.text))) =
      head ++ (pair.first ++ pair.gap) ++
        c :: (others ++ (pair.gap' ++ (pair.second ++ tail))) := by
    rw [← form.whole, split]
    simp [stretch, mark]
  obtain ⟨part, -, later⟩ := exists_of_append_cons absent whole
  have same : part ++ c :: (others ++ pair.gap') ++ (pair.second ++ tail) =
      form.gap ++ (form.mark ++ (form.gap' ++ form.second.sign)) ++
        (form.second.digits ++ form.second.letter) := by
    have amount : form.gap ++ (form.mark ++ (form.gap' ++ form.second.text)) =
        form.gap ++ (form.mark ++ (form.gap' ++ form.second.sign)) ++
          (form.second.digits ++ form.second.letter) := by
      simp [Figure.Sum.text]
    rw [← amount, later]
    simp
  obtain ⟨part, -, within⟩ := exists_past_of_startsWithDigit (pair.isYear'.startsWithDigit tail)
    (fun _ => isWordDigit_of_mem_between form) same
  intro e member
  simp [← within, member]

/-- The text before the second year. -/
def opening : Text :=
  pair.before ++ (pair.first ++ (pair.gap ++ (pair.mark ++ pair.gap')))

/-- No word goes on into the second year. -/
theorem startsWithWord_opening : startsWithWord pair.opening.reverse = false := by
  rcases List.eq_nil_or_concat pair.gap' with none | ⟨init, c, some⟩
  · rcases pair.known with dash | ⟨-, spaced⟩
    · have dashed : isWord '-' = false := by decide
      simpa [opening, none, dash, startsWithWord] using dashed
    · exact absurd none spaced
  · have space := isBlank_iff.1 pair.blank' c (by simp [some])
    simpa [opening, some, startsWithWord] using isWord_of_isWhiteSpace space

/-- The second year is found as one by itself. -/
theorem exists_loneYear :
    ∃ found ∈ Years.loneYear.findAll text, found.before = pair.opening.reverse ∧
      found.text = pair.second ∧ found.after = pair.after := by
  have solid := pair.isYear'.isWord
  have starts : startsWithWord (pair.second ++ pair.after) = true :=
    startsWithWord_of_startsWithDigit (pair.isYear'.startsWithDigit _)
  have takes : Years.loneYear.Takes pair.opening.reverse pair.second pair.after := by
    refine takes_bounded.2 ⟨?_, Years.takes_year.2 pair.isYear', ?_⟩
    · simp [atBoundary, pair.startsWithWord_opening, starts]
    · exact @atBoundary_of_solid _ [] _ _ pair.isYear'.ne_nil solid pair.ended
  have whole : pair.opening.reverse.reverse ++ (pair.second ++ pair.after) = text := by
    simpa [opening] using pair.whole
  obtain ⟨found, member, head, rest, place, split, nonempty, later⟩ :=
    exists_cut_of_takes (by decide) whole takes
  have isYear := (Years.slot?_of_loneYear member).1
  -- The year that is found there cannot have begun before, since no word begins within a word.
  have begins : WordBegins (found.before.reverse ++ head) rest := by
    refine ⟨?_, ?_⟩
    · rw [← place, List.reverse_reverse]
      exact pair.startsWithWord_opening
    · rwa [← later, startsWithWord_append nonempty] at starts
  obtain rfl : head = [] := by
    apply begins.of_append.eq_nil_of_solid
    rw [← split]
    exact isYear.isWord
  rw [List.nil_append] at split
  obtain ⟨year, rest'⟩ := List.append_inj later (by
    rw [← split, isYear.length_eq, pair.isYear'.length_eq])
  refine ⟨found, member, ?_, by rw [split, year], rest'⟩
  simpa using (congrArg List.reverse place).symm

/-- The mark ends in a character that is visible and no dollar sign. -/
theorem exists_mark_reverse :
    ∃ c rest, pair.mark.reverse = c :: rest ∧ isWhiteSpace c = false ∧ c ≠ '$' := by
  rcases pair.known with dash | ⟨word, -⟩
  · exact ⟨'-', [], by simp [dash], by decide, by decide⟩
  · exact ⟨'o', ['t'], by simp [word], by decide, by decide⟩

/-- The mark is the last there is before the second year. -/
theorem exists_trimStart_opening :
    ∃ rest, trimStart pair.opening.reverse = pair.mark.reverse ++ rest := by
  obtain ⟨c, rest, mark, visible, -⟩ := pair.exists_mark_reverse
  refine ⟨(pair.before ++ (pair.first ++ pair.gap)).reverse, ?_⟩
  have spaces : ∀ c ∈ pair.gap'.reverse, isWhiteSpace c = true := by
    intro c member
    exact isBlank_iff.1 pair.blank' c (List.mem_reverse.1 member)
  have order : pair.opening.reverse = pair.gap'.reverse ++ (pair.mark.reverse ++
      (pair.before ++ (pair.first ++ pair.gap)).reverse) := by
    simp [opening]
  rw [order, trimStart, List.dropWhile_append_of_pos spaces, mark, List.cons_append,
    List.dropWhile_cons_of_neg (by simp [visible])]

/-- The word before the second year ends in the mark, so that it is none that leads an amount. -/
theorem not_mem_amountLeads
    {found : Match}
    (before : found.before = pair.opening.reverse) :
    Years.amountLeads.any (fun lead => lead.toList == Years.previousWord found) = false := by
  obtain ⟨rest, trimmed⟩ := pair.exists_trimStart_opening
  have marks : ∀ mark ∈ [['-'], ['t', 'o']], (∀ c ∈ mark.reverse, !isWhiteSpace c) ∧
      ∀ lead ∈ Years.amountLeads, mark.isSuffixOf lead.toList = false := by
    decide
  have known : pair.mark ∈ [['-'], ['t', 'o']] := by
    rcases pair.known with dash | ⟨word, -⟩
    · simp [dash]
    · simp [word]
  obtain ⟨solid, apart⟩ := marks pair.mark known
  have word : Years.previousWord found =
      (rest.takeWhile fun c => !isWhiteSpace c).reverse ++ pair.mark := by
    rw [Years.previousWord, before, trimmed, List.takeWhile_append_of_pos solid,
      List.reverse_append, List.reverse_reverse]
  apply List.any_eq_false.2
  intro lead member same
  have ends : pair.mark.isSuffixOf lead.toList = true := by
    rw [List.isSuffixOf_iff_suffix, beq_iff_eq.1 same, word]
    exact List.suffix_append _ _
  rw [apart lead member] at ends
  cases ends

/-- The second year stands alone where no unit of distance follows it. -/
theorem standsAlone_of_loneYear
    {found : Match}
    (before : found.before = pair.opening.reverse)
    (unitless : found.precedesDistance = false) :
    Years.standsAlone found = true := by
  have free : found.followsCurrency = false := by
    obtain ⟨rest, trimmed⟩ := pair.exists_trimStart_opening
    obtain ⟨c, others, mark, -, notSign⟩ := pair.exists_mark_reverse
    rw [Match.followsCurrency, before, trimmed, mark]
    simpa using notSign
  simp [Years.standsAlone, free, unitless, pair.not_mem_amountLeads before]

/-- No unit of distance follows a pair that lies within a bare range without one. -/
theorem precedesDistance_of_within_range
    {found lone : Match}
    {head tail : Text}
    (form : Budget.RangeForm found)
    (split : found.text = head ++ (pair.stretch.body ++ tail))
    (rest : pair.after = tail ++ found.after)
    (unitless : found.precedesDistance = false)
    (after : lone.after = pair.after) :
    lone.precedesDistance = false := by
  have within := pair.subset_of_within_range form split
  have ended := pair.ended
  cases tail with
  | nil => rwa [Match.precedesDistance, after, rest]
  | cons c tail =>
      -- What goes on after the year within the number of the range is a comma or a point.
      rw [rest, List.cons_append] at ended
      have notWord : isWord c = false := ended
      have mark : c = ',' ∨ c = '.' := by
        rcases List.mem_append.1 (within List.mem_cons_self) with member | member
        · rcases form.second.isNumber.mem member with digit | mark
          · simp [isWord_of_isWordDigit digit] at notWord
          · exact mark
        · have letters : ∀ letter, letter = [] ∨ letter = ['k'] ∨ letter = ['m'] →
              ∀ c ∈ letter, isWord c = true := by
            rintro letter (rfl | rfl | rfl) <;> decide
          simp [letters _ form.second.isLetter c member] at notWord
      have apart : isWhiteSpace c = false ∧ isAlphabetic c = false := by
        rcases mark with rfl | rfl <;> decide
      have nothing : Figure.distanceWords.any (fun unit => unit.toList == []) = false := by decide
      rw [Match.precedesDistance, after, rest, List.cons_append, trimStart,
        List.dropWhile_cons_of_neg (by simp [apart.1]),
        List.takeWhile_cons_of_neg (by simp [apart.2])]
      exact nothing

/-- Years are claimed where a pair lies within a bare range that passes for a price. -/
theorem spans_ne_nil_of_within_range
    {found : Match}
    {head tail : Text}
    (form : Budget.RangeForm found)
    (split : found.text = head ++ (pair.stretch.body ++ tail))
    (rest : pair.after = tail ++ found.after)
    (unitless : found.precedesDistance = false) :
    (Years.read text).spans ≠ [] := by
  obtain ⟨lone, member, before, year, after⟩ := pair.exists_loneYear
  obtain ⟨value, known⟩ := Years.exists_uint32? pair.isYear' pair.numerals
  have recorded : Years.recordedYear? lone .left = some value := by
    rw [Years.recordedYear?, (Years.slot?_of_loneYear member).2, year]
    exact known
  exact Years.spans_ne_nil_of_loneYear member recorded (pair.standsAlone_of_loneYear before
    (pair.precedesDistance_of_within_range form split rest unitless after))

end YearPair

namespace Interpretation

/-- A pair of years is read as a price only beside years that are claimed elsewhere. -/
theorem exists_year_of_covers
    (phrase : String)
    (pair : YearPair (lowercase phrase.toList))
    {span : Span}
    (claimed : span ∈ (openPrices (lowercase phrase.toList)).spans)
    (starts : span.start ≤ pair.stretch.span.start)
    (stops : pair.stretch.span.stop ≤ span.stop) :
    ∃ year ∈ (Years.read (lowercase phrase.toList)).spans,
      year.meets pair.stretch.span = false := by
  obtain ⟨side, value, source⟩ := (Budget.isTraced_read _ _).isBuilt.allowed claimed
  have apart := Span.meetsAny_eq_false_iff.1 source.free
  suffices some : (Years.read (lowercase phrase.toList)).spans ≠ [] by
    obtain ⟨year, member⟩ := List.exists_mem_of_ne_nil _ some
    have clear := apart year (List.mem_append_left _ member)
    refine ⟨year, member, ?_⟩
    simp only [Span.meets, Bool.and_eq_false_iff, decide_eq_false_iff_not] at clear ⊢
    omega
  cases source with
  | limit member _ _ =>
      obtain ⟨form⟩ := Budget.nonempty_limitForm member
      obtain ⟨head, tail, -, split, -⟩ := Stretch.exists_split_of_mem member ⟨starts, stops⟩
      exact absurd split (pair.not_within_limit form)
  | between member _ _ =>
      obtain ⟨form⟩ := Budget.nonempty_betweenForm member
      obtain ⟨head, tail, -, split, -⟩ := Stretch.exists_split_of_mem member ⟨starts, stops⟩
      exact absurd split (pair.not_within_between form)
  | range member _ _ _ _ unitless =>
      obtain ⟨form⟩ := Budget.nonempty_rangeForm member
      obtain ⟨head, tail, -, split, rest⟩ := Stretch.exists_split_of_mem member ⟨starts, stops⟩
      exact pair.spans_ne_nil_of_within_range form split rest unitless

/-- A pair of years beside another pair, which is the one that is claimed. -/
def pairBesideYears : YearPair (lowercase "Cars 2015-2020 or 2010-2012".toList) where
  before := "cars 2015-2020 or ".toList
  first := "2010".toList
  gap := []
  mark := ['-']
  gap' := []
  second := "2012".toList
  after := []
  isYear := ⟨"20", by decide, '1', '0', by decide, by decide, by decide⟩
  blank := rfl
  known := .inl rfl
  blank' := rfl
  isYear' := ⟨"20", by decide, '1', '2', by decide, by decide, by decide⟩
  numerals := by decide
  ended := rfl
  whole := by decide +kernel

/-- The years that are claimed are those of the other pair. -/
theorem exists_year_of_covers_beside :
    ∃ year ∈ (Years.read (lowercase "Cars 2015-2020 or 2010-2012".toList)).spans,
      year.meets pairBesideYears.stretch.span = false := by
  have claimed : (⟨18, 27⟩ : Span) ∈
      (openPrices (lowercase "Cars 2015-2020 or 2010-2012".toList)).spans := by
    decide +kernel
  exact exists_year_of_covers "Cars 2015-2020 or 2010-2012" pairBesideYears claimed (by decide)
    (by decide)

/-- A pair of years may be read as a price. -/
theorem price_of_yearPair :
    pairBesideYears.stretch.span ∈
        (openPrices (lowercase "Cars 2015-2020 or 2010-2012".toList)).spans ∧
      (ofPhrase "Cars 2015-2020 or 2010-2012").filters.price =
        { lower := some 2010, upper := some 2012 } := by
  decide +kernel

end Interpretation
end SearchPhrase
