import SearchPhrase.Proofs.Pattern.Occurrences
import SearchPhrase.Proofs.Phrase.Grounds

/-!
# A pair of years and no other digits

Where the only digits of a text are those of two years with the mark of a range between them, every
rule that looks for a figure comes upon one of the two years.  Years are read from the pair, a
leading word before it says nothing else, no distance is written that way, and any price meets the
stretch of the pair.
-/

namespace SearchPhrase

open Cursor Figure Pattern Text Unicode

/-- A range is claimed where the upper end is open and the lower one is either open or the same. -/
theorem Reading.claimRange_eq
    {α : Type}
    [LT α]
    [DecidableLT α]
    {reading : Reading α}
    {low high : α}
    {span : Span}
    (unset : reading.bounds.upper = none)
    (same : ∀ known ∈ reading.bounds.lower, known = low)
    (ordered : ¬high < low) :
    reading.claimRange low high span =
      ⟨{ lower := some low, upper := some high }, reading.spans ++ [span]⟩ := by
  obtain ⟨⟨lower, upper⟩, spans⟩ := reading
  obtain rfl : upper = none := unset
  cases lower with
  | none => simp [claimRange, Bounds.setLower?, Bounds.setUpper?, ordered]
  | some known =>
      obtain rfl : known = low := same known rfl
      simp [claimRange, claimUpper, Bounds.setLower?, Bounds.setUpper?, ordered]

/-- A number that begins in front of the end of a year, and goes on into nothing else, lies within
the year. -/
theorem Figure.IsNumber.within_or_past
    {year rest digits head tail : Text}
    (isNumber : IsNumber digits)
    (stops : ∀ c ∈ rest.head?, inNumber c = false)
    (same : head ++ (digits ++ tail) = year ++ rest) :
    (∃ back, year = head ++ (digits ++ back) ∧ tail = back ++ rest) ∨
      ∃ part, head = year ++ part ∧ part ++ (digits ++ tail) = rest := by
  rcases List.append_eq_append_iff.1 same with ⟨part, split, later⟩ | ⟨part, split, later⟩
  · left
    rcases List.append_eq_append_iff.1 later with ⟨back, rfl, after⟩ | ⟨more, rfl, after⟩
    · exact ⟨back, split, after⟩
    · cases more with
      | nil => exact ⟨[], by simpa using split, by simpa using after.symm⟩
      | cons c more =>
          -- The number would go on into what follows the year.
          have within := inNumber_of_mem isNumber (by simp : c ∈ part ++ c :: more)
          rw [stops c (by simp [after])] at within
          cases within
  · exact .inr ⟨part, split, later.symm⟩

/-- A scale letter or a unit shows first after a number that counts a distance, white space
aside. -/
theorem Mileage.IsUnitTail.exists_letter
    {letter text : Text}
    (isTail : IsUnitTail letter text) :
    ∃ gap c rest, text = gap ++ c :: rest ∧ isBlank gap = true ∧ c ∈ ['k', 'm', 'o'] := by
  obtain @⟨gap, gap', rest, unit, blank, isLetter, blank', known, -⟩ := isTail
  rcases isLetter with rfl | rfl
  · obtain ⟨c, isHead, others, shape⟩ := exists_head_of_mem_distanceWords known
    refine ⟨gap ++ gap', c, others ++ rest, by simp [shape], ?_, isHead⟩
    exact isBlank_iff.2 fun c member =>
      (List.mem_append.1 member).elim (isBlank_iff.1 blank c) (isBlank_iff.1 blank' c)
  · exact ⟨gap, 'k', gap' ++ (unit.toList ++ rest), rfl, blank, by decide⟩

namespace Years.IsJoint

variable {joint : Text}

/-- What marks a range shows first, white space aside. -/
theorem exists_mark (isJoint : IsJoint joint) :
    ∃ gap c rest, joint = gap ++ c :: rest ∧ isBlank gap = true ∧ c ∈ ['-', 't'] := by
  obtain @⟨gap, _, gap', blank, rfl | rfl, -⟩ := isJoint
  · exact ⟨gap, '-', gap', rfl, blank, by decide⟩
  · exact ⟨gap, 't', 'o' :: gap', rfl, blank, by decide⟩

/-- What marks a range begins with white space or with the mark. -/
theorem exists_head (isJoint : IsJoint joint) :
    ∃ c rest, joint = c :: rest ∧ (isWhiteSpace c = true ∨ c ∈ ['-', 't']) := by
  obtain ⟨gap, c, rest, rfl, blank, known⟩ := isJoint.exists_mark
  cases gap with
  | nil => exact ⟨c, rest, rfl, .inr known⟩
  | cons d gap =>
      exact ⟨d, gap ++ c :: rest, rfl, .inl (isBlank_iff.1 blank d List.mem_cons_self)⟩

theorem takes
    {before after : Text}
    (isJoint : IsJoint joint) :
    rangeMark.Takes before joint after := by
  obtain @⟨gap, mark, gap', blank, known, blank'⟩ := isJoint
  refine ⟨gap ++ mark, gap', by simp, ⟨gap, mark, rfl, takes_gap.2 blank, ?_⟩, takes_gap.2 blank'⟩
  rcases known with rfl | rfl
  · exact takes_oneOf.2 ⟨"-", by decide, rfl⟩
  · exact takes_oneOf.2 ⟨"to", by decide, rfl⟩

/-- No number goes on into the mark of a range. -/
theorem stops
    (isJoint : IsJoint joint)
    (rest : Text) :
    ∀ c ∈ (joint ++ rest).head?, inNumber c = false := by
  obtain ⟨c, others, rfl, known⟩ := isJoint.exists_head
  have marks : ∀ c ∈ ['-', 't'], inNumber c = false := by decide
  simpa using known.elim inNumber_of_isWhiteSpace (marks c)

/-- The mark of a range does not end like a word that ends otherwise. -/
theorem append_ne
    {front front' stem gap : Text}
    {c : Char}
    (isJoint : IsJoint joint)
    (blank : isBlank gap = true)
    (last : stem.getLast? = some c)
    (visible : isWhiteSpace c = false)
    (other : c ∉ ['-', 'o']) :
    front ++ joint ≠ front' ++ (stem ++ gap) := by
  obtain @⟨space, mark, space', -, known, blank'⟩ := isJoint
  intro same
  have markLast : ∃ d ∈ ['-', 'o'], mark.getLast? = some d := by
    rcases known with rfl | rfl <;> simp
  obtain ⟨d, isMark, ends⟩ := markLast
  have marks : ∀ d ∈ ['-', 'o'], isWhiteSpace d = false := by decide
  obtain ⟨init, rfl⟩ := List.getLast?_eq_some_iff.1 last
  obtain ⟨init', rfl⟩ := List.getLast?_eq_some_iff.1 ends
  have words : front ++ (space ++ (init' ++ [d])) = front' ++ (init ++ [c]) := by
    have ends : EndsVisible (front ++ (space ++ (init' ++ [d]))) := by
      simpa [EndsVisible] using marks d isMark
    have ends' : EndsVisible (front' ++ (init ++ [c])) := by
      simpa [EndsVisible] using visible
    apply (eq_of_append_isBlank ends ends' blank' blank _).1
    simpa only [List.append_assoc] using same
  have equal := congrArg List.getLast? words
  simp only [← List.append_assoc, List.getLast?_concat, Option.some.injEq] at equal
  exact other (equal ▸ isMark)

/-- No unit of distance, and no scale letter before one, begins with the mark of a range. -/
theorem not_isUnitTail
    {letter rest : Text}
    (isJoint : IsJoint joint) :
    ¬Mileage.IsUnitTail letter (joint ++ rest) := by
  obtain ⟨gap, c, others, rfl, blank, isMark⟩ := isJoint.exists_mark
  intro isTail
  obtain ⟨gap', d, others', same, blank', isLetter⟩ := isTail.exists_letter
  have marks : ∀ c ∈ ['-', 't'], isWhiteSpace c = false := by decide
  have letters : ∀ d ∈ ['k', 'm', 'o'], isWhiteSpace d = false ∧ d ∉ ['-', 't'] := by decide
  rw [List.append_assoc] at same
  obtain ⟨-, rests⟩ := append_inj_of_kind (isBlank_iff.1 blank) (isBlank_iff.1 blank')
    (by simpa using marks c isMark) (by simpa using (letters d isLetter).1) same
  obtain ⟨rfl, -⟩ := List.cons.inj rests
  exact (letters _ isLetter).2 isMark

end Years.IsJoint

/-- A literal that spells an amount holds a digit. -/
theorem Amount.Spells.exists_digit
    {literal : Text}
    {value : UInt64}
    (spells : Spells literal value) :
    ∃ d ∈ literal, Unicode.isWordDigit d = true := by
  obtain ⟨literal, rfl, -⟩ := spells
  obtain ⟨d, whole, fraction, shape, digit, -⟩ := literal.isNumber
  exact ⟨d, by simp [Literal.text, shape], digit⟩

/-- Two years in ascending order, the mark of a range between them, and a text around them that
holds no other digits. -/
structure LonePair (text : Text) where
  /-- The text before the pair. -/
  lead : Text
  /-- The first year. -/
  first : Text
  /-- The mark, and the white space around it. -/
  joint : Text
  /-- The second year. -/
  second : Text
  /-- The text after the pair. -/
  rest : Text
  /-- The value of the first year. -/
  low : UInt32
  /-- The value of the second year. -/
  high : UInt32
  /-- There is no digit before the pair. -/
  free : ∀ c ∈ lead, isWordDigit c = false
  /-- No word goes on into the pair. -/
  fresh : startsWithWord lead.reverse = false
  /-- The first year is spelled in the pair. -/
  spells : Years.Spells first low
  /-- What stands between the years marks a range. -/
  isJoint : Years.IsJoint joint
  /-- The second year is spelled in the pair. -/
  spells' : Years.Spells second high
  /-- The years are in ascending order. -/
  ascending : low ≤ high
  /-- There is no digit after the pair. -/
  free' : ∀ c ∈ rest, isWordDigit c = false
  /-- If anything follows the pair, white space does. -/
  spaced : ∀ c ∈ rest.head?, isWhiteSpace c = true
  /-- The parts make up the text. -/
  whole : lead ++ (first ++ (joint ++ (second ++ rest))) = text

namespace LonePair

variable {text : Text} (pair : LonePair text)

/-- The stretch that a pair takes up. -/
def stretch : Stretch text where
  before := pair.lead
  body := pair.first ++ (pair.joint ++ pair.second)
  after := pair.rest
  whole := by simpa only [List.append_assoc] using pair.whole

/-- Every year of the text is one of the two. -/
theorem year_cases
    {year head tail : Text}
    (isYear : Years.IsYear year)
    (same : head ++ (year ++ tail) = text) :
    (head = pair.lead ∧ year = pair.first ∧ tail = pair.joint ++ (pair.second ++ pair.rest)) ∨
      (head = pair.lead ++ (pair.first ++ pair.joint) ∧ year = pair.second ∧ tail = pair.rest) := by
  obtain ⟨part, rfl, within⟩ := isYear.exists_past pair.free (same.trans pair.whole.symm)
  rcases pair.spells.1.eq_or_eq_of_within (fun _ => pair.isJoint.isWordDigit) pair.isJoint.ne_nil
    pair.spells'.1 pair.free' isYear within with ⟨rfl, equal, rest⟩ | ⟨rfl, equal, rest⟩
  · exact .inl ⟨by simp, equal, rest⟩
  · exact .inr ⟨rfl, equal, rest⟩

/-- Every number of the text lies within one of the two years. -/
theorem number_cases
    {digits head tail : Text}
    (isNumber : IsNumber digits)
    (same : head ++ (digits ++ tail) = text) :
    (∃ front back, pair.first = front ++ (digits ++ back) ∧ head = pair.lead ++ front ∧
        tail = back ++ (pair.joint ++ (pair.second ++ pair.rest))) ∨
      ∃ front back, pair.second = front ++ (digits ++ back) ∧
        head = pair.lead ++ (pair.first ++ (pair.joint ++ front)) ∧ tail = back ++ pair.rest := by
  have digit := isNumber.startsWithDigit tail
  obtain ⟨front, rfl, within⟩ :=
    exists_past_of_startsWithDigit digit pair.free (same.trans pair.whole.symm)
  rcases isNumber.within_or_past (pair.isJoint.stops _) within with
    ⟨back, split, rfl⟩ | ⟨part, rfl, later⟩
  · exact .inl ⟨front, back, split, rfl, rfl⟩
  right
  obtain ⟨front, rfl, after⟩ :=
    exists_past_of_startsWithDigit digit (fun _ => pair.isJoint.isWordDigit) later
  have stops : ∀ c ∈ pair.rest.head?, inNumber c = false := fun c first =>
    inNumber_of_isWhiteSpace (pair.spaced c first)
  rcases isNumber.within_or_past stops after with ⟨back, split, rfl⟩ | ⟨part, rfl, beyond⟩
  · exact ⟨front, back, split, rfl, rfl⟩
  · -- Past the second year there are no digits.
    obtain ⟨d, others, shape⟩ := List.exists_cons_of_ne_nil isNumber.ne_nil
    rw [shape] at digit
    have isDigit : isWordDigit d = true := digit
    rw [pair.free' d (by simp [← beyond, shape])] at isDigit
    cases isDigit

/-! ## Years -/

theorem takes_yearPair :
    Years.yearPair.Takes pair.lead.reverse pair.stretch.body pair.rest := by
  have ended : startsWithWord pair.rest = false := by
    cases shape : pair.rest with
    | nil => rfl
    | cons c others => exact isWord_of_isWhiteSpace (pair.spaced c (by rw [shape]; rfl))
  have starts : startsWithWord (pair.stretch.body ++ pair.rest) = true := by
    have digit := pair.spells.1.startsWithDigit (pair.joint ++ (pair.second ++ pair.rest))
    simpa [stretch] using startsWithWord_of_startsWithDigit digit
  have isYear := pair.spells'.1
  refine takes_bounded.2 ⟨?_, ?_, ?_⟩
  · simp [atBoundary, pair.fresh, starts]
  · exact ⟨pair.first ++ pair.joint, pair.second, by simp [stretch],
      ⟨pair.first, pair.joint, rfl, Years.takes_year.2 pair.spells.1, pair.isJoint.takes⟩,
      Years.takes_year.2 isYear⟩
  · have split : pair.stretch.body = (pair.first ++ pair.joint) ++ pair.second := by
      simp [stretch]
    rw [split]
    exact atBoundary_of_solid isYear.ne_nil isYear.isWord ended

/-- Every occurrence of a pair of years is this one. -/
theorem eq_of_mem_yearPair
    {found : Match}
    (member : found ∈ Years.yearPair.findAll text) :
    Years.ascendingPair? found = some (pair.low, pair.high, pair.stretch.span) := by
  obtain ⟨form⟩ := Years.nonempty_pairForm member
  have whole : found.before.reverse ++
      (form.first ++ (form.joint ++ (form.second ++ found.after))) = text := by
    rw [← (whole_of_mem_findAll member).1, form.whole_joint]
    simp only [List.append_assoc]
  rcases pair.year_cases form.isYear whole with ⟨before, equal, after⟩ | ⟨-, -, after⟩
  · obtain ⟨part, joint, later⟩ :=
      form.isYear'.exists_past (fun _ => pair.isJoint.isWordDigit) after
    obtain ⟨rfl, equal', -⟩ := pair.spells'.1.eq_of_within pair.free' form.isYear' later
    have year : Years.recordedYear? found .left = some pair.low := by
      rw [Years.recordedYear?, form.slot, equal]
      exact pair.spells.2
    have year' : Years.recordedYear? found .right = some pair.high := by
      rw [Years.recordedYear?, form.slot', equal']
      exact pair.spells'.2
    have span : found.span = pair.stretch.span := by
      rw [Match.span, ← byteLength_reverse, before, form.whole_joint, equal, equal', joint]
      simp [Stretch.span, stretch]
    rw [Years.ascendingPair?, year, year', span]
    simp [pair.ascending]
  · -- A second year would follow the pair.
    obtain ⟨d, others, shape⟩ := List.exists_cons_of_ne_nil form.isYear'.ne_nil
    have digit := form.isYear'.isWordDigit (by simp [shape] : d ∈ form.second)
    rw [pair.free' d (by simp [← after, shape])] at digit
    cases digit

theorem findSome?_ascendingPair? :
    (Years.yearPair.findAll text).findSome? Years.ascendingPair? =
      some (pair.low, pair.high, pair.stretch.span) := by
  have whole : pair.lead.reverse.reverse ++ (pair.stretch.body ++ pair.rest) = text := by
    rw [List.reverse_reverse]
    exact pair.stretch.whole
  obtain ⟨found, member, -⟩ := exists_found_of_takes (by decide) whole pair.takes_yearPair
  cases first : (Years.yearPair.findAll text).findSome? Years.ascendingPair? with
  | none =>
      have absent := List.findSome?_eq_none_iff.1 first found member
      rw [pair.eq_of_mem_yearPair member] at absent
      cases absent
  | some claim =>
      obtain ⟨other, known, read⟩ := List.exists_of_findSome?_eq_some first
      rw [← read, pair.eq_of_mem_yearPair known]

/-- A leading word can only lead the first year. -/
theorem eq_of_mem_ledYear
    {side : Side}
    {found : Match}
    (member : found ∈ (Years.ledYear side).findAll text) :
    (∃ word ∈ Years.leads side, word.toList <:+ trimEnd pair.lead) ∧
      Years.recordedYear? found .left = some pair.low := by
  obtain ⟨form⟩ := Years.nonempty_ledForm member
  have whole : (found.before.reverse ++ (form.word.toList ++ form.gap)) ++
      (form.digits ++ found.after) = text := by
    rw [← (whole_of_mem_findAll member).1, form.whole]
    simp only [List.append_assoc]
  have letters : ∀ word ∈ Years.leads side, ∃ c, word.toList.getLast? = some c ∧
      isWhiteSpace c = false ∧ c ∉ ['-', 'o'] := by
    cases side <;> simp [Years.leads] <;> decide
  obtain ⟨c, last, visible, other⟩ := letters form.word form.known
  rcases pair.year_cases form.isYear whole with ⟨before, equal, -⟩ | ⟨before, -, -⟩
  · constructor
    · have ends : EndsVisible (found.before.reverse ++ form.word.toList) := by
        intro d final
        rw [List.getLast?_append, last] at final
        obtain rfl : c = d := by simpa using final
        exact visible
      refine ⟨form.word, form.known, ?_⟩
      rw [← before, ← List.append_assoc, trimEnd_append_of_isBlank form.blank,
        trimEnd_eq_self ends]
      exact List.suffix_append _ _
    · rw [Years.recordedYear?, form.slot, equal]
      exact pair.spells.2
  · rw [← List.append_assoc pair.lead] at before
    exact absurd before.symm (pair.isJoint.append_ne form.blank last visible other)

/-- Nothing but the first year is read after a leading word. -/
theorem readAfter_cases :
    Years.readAfter text .nothing = .nothing ∨
      ∃ span, Years.readAfter text .nothing = ⟨{ lower := some pair.low }, [span]⟩ := by
  unfold Years.readAfter
  split
  · exact .inl rfl
  · next found first =>
      have member : found ∈ (Years.ledYear .lower).findAll text := mem_findAll_of_find? first
      rw [(pair.eq_of_mem_ledYear member).2]
      exact .inr ⟨found.span, rfl⟩

theorem readBefore_eq_self
    (unled : ∀ word ∈ Years.leads .upper, ¬word.toList <:+ trimEnd pair.lead)
    (reading : Reading UInt32) :
    Years.readBefore text reading = reading := by
  unfold Years.readBefore
  split
  · rfl
  · next found first =>
      have member : found ∈ (Years.ledYear .upper).findAll text := mem_findAll_of_find? first
      obtain ⟨⟨word, known, ends⟩, -⟩ := pair.eq_of_mem_ledYear member
      exact absurd ends (unled word known)

/-- Both years are read from the pair unless a word before it makes the first one the end of a
range. -/
theorem read_years
    (unled : ∀ word ∈ Years.leads .upper, ¬word.toList <:+ trimEnd pair.lead) :
    (Years.read text).bounds = { lower := some pair.low, upper := some pair.high } ∧
      pair.stretch.span ∈ (Years.read text).spans := by
  have ordered : ¬pair.high < pair.low := UInt32.not_lt.2 pair.ascending
  have both : Years.readPair text (Years.readAfter text .nothing) =
      ⟨{ lower := some pair.low, upper := some pair.high },
        (Years.readAfter text .nothing).spans ++ [pair.stretch.span]⟩ := by
    rw [Years.readPair, pair.findSome?_ascendingPair?]
    rcases pair.readAfter_cases with nothing | ⟨span, led⟩
    · rw [nothing]
      exact Reading.claimRange_eq rfl (by simp [Reading.nothing]) ordered
    · rw [led]
      exact Reading.claimRange_eq rfl (by simp) ordered
  have closed : Years.read text = Years.readPair text (Years.readAfter text .nothing) := by
    rw [Years.read, pair.readBefore_eq_self unled, both]
    rfl
  rw [closed, both]
  exact ⟨rfl, List.mem_append_right _ List.mem_cons_self⟩

/-! ## Distances and prices -/

include pair

/-- A number is followed by a digit, white space or the mark of the range. -/
theorem head_of_number
    {digits head tail : Text}
    {c : Char}
    (isNumber : IsNumber digits)
    (same : head ++ (digits ++ tail) = text)
    (first : c ∈ tail.head?) :
    isWordDigit c = true ∨ isWhiteSpace c = true ∨ c ∈ ['-', 't'] := by
  rcases pair.number_cases isNumber same with ⟨front, back, split, -, rfl⟩ |
    ⟨front, back, split, -, rfl⟩
  · cases back with
    | nil =>
        obtain ⟨d, others, joint, known⟩ := pair.isJoint.exists_head
        obtain rfl : d = c := by simpa [joint] using first
        exact .inr known
    | cons d back =>
        obtain rfl : d = c := by simpa using first
        exact .inl (pair.spells.1.isWordDigit (by simp [split]))
  · cases back with
    | nil => exact .inr (.inl (pair.spaced c first))
    | cons d back =>
        obtain rfl : d = c := by simpa using first
        exact .inl (pair.spells'.1.isWordDigit (by simp [split]))

/-- No number is one of thousands. -/
theorem not_thousands
    {digits head tail : Text}
    (isNumber : IsNumber digits) :
    head ++ (digits ++ 'k' :: tail) ≠ text := by
  intro same
  have known := pair.head_of_number isNumber same (rfl : 'k' ∈ ('k' :: tail).head?)
  exact absurd known (by decide)

/-- No limit stands before a number with a unit of distance after it. -/
theorem not_mem_limitWithUnit
    {side : Side}
    {found : Match} :
    found ∉ (Mileage.limitWithUnit side.limit).findAll text := by
  intro member
  obtain ⟨form⟩ := Mileage.nonempty_unitForm member
  have whole : (found.before.reverse ++ (form.words ++ form.gap)) ++
      (form.digits ++ (form.closing ++ found.after)) = text := by
    rw [← (whole_of_mem_findAll member).1, form.whole_closing]
    simp only [List.append_assoc]
  rcases pair.number_cases form.isNumber whole with ⟨front, back, split, -, tail⟩ |
    ⟨front, back, split, before, -⟩
  · -- The number ends with the first year, after which the mark of the range follows.
    cases back with
    | nil => exact pair.isJoint.not_isUnitTail (tail ▸ form.isUnitTail_closing)
    | cons c back =>
        have digit := pair.spells.1.isWordDigit (by simp [split] : c ∈ pair.first)
        have stops := form.isUnitTail_closing.stops c (by simp [tail])
        simp [inNumber, digit] at stops
  · -- The words of the limit would end in the mark of the range or in a digit.
    obtain ⟨c, known, last⟩ := form.announces.exists_last
    have letters : ∀ c ∈ ['r', 'w', 'e', 'n'], isWhiteSpace c = false ∧ c ∉ ['-', 'o'] := by decide
    obtain ⟨visible, other⟩ := letters c known
    rcases List.eq_nil_or_concat front with rfl | ⟨init, d, rfl⟩
    · rw [List.append_nil, ← List.append_assoc pair.lead] at before
      exact pair.isJoint.append_ne form.blank last visible other before.symm
    · have digit := pair.spells'.1.isWordDigit (by simp [split] : d ∈ pair.second)
      obtain ⟨init', e, shape⟩ := (List.eq_nil_or_concat (form.words ++ form.gap)).resolve_left
        (by simp [form.announces.ne_nil])
      have same : e = d := by simpa [shape] using congrArg List.getLast? before
      rw [← same, form.announces.isWordDigit_append form.blank (by simp [shape])] at digit
      cases digit

/-- No distance is read beside the pair. -/
theorem bounds_mileage : (Mileage.read text).bounds = .unbounded := by
  apply (Mileage.isTraced_read text).eq_unbounded_of_not_source
  intro side value span source
  cases source with
  | @orBelow found _ _ member _ _ =>
      obtain ⟨form⟩ := Mileage.nonempty_orBelowForm member
      have whole : found.before.reverse ++ (form.digits ++ 'k' :: (form.rest ++ found.after)) =
          text := by
        rw [← (whole_of_mem_findAll member).1, form.whole]
        simp
      exact pair.not_thousands form.isNumber whole
  | withUnit member _ => exact pair.not_mem_limitWithUnit member
  | @inThousands found _ member _ _ =>
      obtain ⟨form⟩ := Mileage.nonempty_thousandsForm member
      have whole : (found.before.reverse ++ (form.words ++ form.gap)) ++
          (form.digits ++ 'k' :: found.after) = text := by
        rw [← (whole_of_mem_findAll member).1, form.whole]
        simp
      exact pair.not_thousands form.isNumber whole

/-- No price is read beside the pair, once its stretch is claimed. -/
theorem bounds_budget
    {claimed : List Span}
    (member : pair.stretch.span ∈ claimed) :
    (Budget.read claimed text).bounds = .unbounded := by
  apply (Budget.isTraced_read claimed text).eq_unbounded_of_not_source
  intro side value span source
  have apart := Span.meetsAny_eq_false_iff.1 source.free _ member
  obtain ⟨literal, ⟨starts, stops⟩, -, spells⟩ := source.spelledIn
  obtain ⟨d, inLiteral, digit⟩ : ∃ d ∈ literal.body, isWordDigit d = true := spells.exists_digit
  have meets : pair.stretch.span.meets literal.span = true := by
    apply Stretch.meets_of_mem inLiteral
    · intro before
      simp [pair.free d before] at digit
    · intro after
      simp [pair.free' d after] at digit
  simp only [Span.meets, Bool.and_eq_true, Bool.and_eq_false_iff, decide_eq_true_eq,
    decide_eq_false_iff_not] at meets apart
  omega

end LonePair
end SearchPhrase
