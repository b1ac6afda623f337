import SearchPhrase.Proofs.Pattern.Occurrences
import SearchPhrase.Proofs.Phrase.Amounts

/-!
# Texts with one limit

A text may end in a limit and a number of thousands, and hold no other digits.  The patterns that
need more than this take nothing of it, and those that read a limit take exactly the one that it
ends in.
-/

namespace SearchPhrase

/-- Of two texts that end alike, one in characters of a kind and the other in characters of another,
one has no such end. -/
theorem Text.eq_nil_of_append_eq
    {kind : Char → Bool}
    {before before' first second : Text}
    (nonempty : first ≠ [])
    (none : ∀ c ∈ first, kind c = false)
    (all : ∀ c ∈ second, kind c = true)
    (same : before ++ first = before' ++ second) :
    second = [] := by
  by_cases nothing : second = []
  · exact nothing
  · have last := congrArg List.getLast? same
    rw [List.getLast?_append, List.getLast?_append, List.getLast?_eq_some_getLast nonempty,
      List.getLast?_eq_some_getLast nothing] at last
    have apart := none _ (List.getLast_mem nonempty)
    rw [Option.some.inj last, all _ (List.getLast_mem nothing)] at apart
    cases apart

namespace Figure

open Pattern Text Unicode

/-- Digits alone are a number. -/
theorem isNumber_of_digits
    {digits : Text}
    (nonempty : digits ≠ [])
    (all : ∀ c ∈ digits, isWordDigit c = true) :
    IsNumber digits := by
  cases digits with
  | nil => exact absurd rfl nonempty
  | cons c rest =>
      refine ⟨c, rest, [], by simp, all c (by simp), ?_, .inl rfl⟩
      intro d member
      exact .inl (all d (List.mem_cons_of_mem c member))

theorem isWord_scale : isWord 'k' = true := by
  decide

/-- White space holds neither digits nor scale letters. -/
theorem exists_space
    {gap : Text}
    (nonempty : gap ≠ [])
    (blank : isBlank gap = true) :
    ∃ c ∈ gap, isWordDigit c = false ∧ c ≠ 'k' := by
  obtain ⟨c, member⟩ := List.exists_mem_of_ne_nil _ nonempty
  have space := isBlank_iff.1 blank c member
  refine ⟨c, member, isWordDigit_of_isWhiteSpace space, ?_⟩
  rintro rfl
  exact absurd space (by decide)

/-- A text that ends in a limit and a number of thousands, and holds no other digits. -/
structure LoneLimit (side : Side) (text : Text) where
  /-- The text before the limit. -/
  lead : Text
  /-- The words of the limit. -/
  words : Text
  /-- The white space after them. -/
  gap : Text
  /-- The digits of the number. -/
  digits : Text
  /-- There is no digit before the limit. -/
  free : ∀ c ∈ lead, isWordDigit c = false
  /-- The limit begins at the edge of a word. -/
  fresh : Cursor.startsWithWord lead.reverse = false
  /-- The words announce a limit. -/
  announces : side.Announces words
  /-- There is white space after them. -/
  spaced : gap ≠ []
  /-- There is nothing else between them and the number. -/
  blank : isBlank gap = true
  /-- The number has digits. -/
  nonempty : digits ≠ []
  /-- The number has nothing but digits. -/
  all : ∀ c ∈ digits, isWordDigit c = true
  /-- The parts make up the text. -/
  whole : lead ++ (words ++ (gap ++ (digits ++ ['k']))) = text

namespace LoneLimit

variable {side : Side} {text : Text} (lone : LoneLimit side text)

/-- The text before the number. -/
def front : Text :=
  lone.lead ++ (lone.words ++ lone.gap)

theorem front_append : lone.front ++ (lone.digits ++ ['k']) = text := by
  simp only [front, List.append_assoc, lone.whole]

theorem isWordDigit_of_mem_front
    {c : Char}
    (member : c ∈ lone.front) :
    isWordDigit c = false := by
  rcases List.mem_append.1 member with member | member
  · exact lone.free c member
  · exact lone.announces.isWordDigit_append lone.blank member

/-- No number in the text begins before the digits. -/
theorem exists_first
    {before number after : Text}
    (isNumber : IsNumber number)
    (cut : before ++ (number ++ after) = text) :
    ∃ first, before = lone.front ++ first ∧ first ++ (number ++ after) = lone.digits ++ ['k'] := by
  rcases List.append_eq_append_iff.1 (cut.trans lone.front_append.symm) with
    ⟨part, split, rest⟩ | ⟨first, split, rest⟩
  · cases part with
    | nil => exact ⟨[], by simpa using split.symm, by simpa using rest⟩
    | cons c part =>
        -- The first digit of the number would stand before the digits.
        have digit := isNumber.startsWithDigit after
        have free := lone.isWordDigit_of_mem_front (by simp [split] : c ∈ lone.front)
        rw [rest, List.cons_append, startsWithDigit, free] at digit
        cases digit
  · exact ⟨first, split, rest.symm⟩

/-- A number in the text is a part of the digits. -/
theorem exists_cut
    {before number after : Text}
    (isNumber : IsNumber number)
    (cut : before ++ (number ++ after) = text) :
    ∃ first last, before = lone.front ++ first ∧ lone.digits = first ++ (number ++ last) ∧
      after = last ++ ['k'] := by
  obtain ⟨first, begins, rest⟩ := lone.exists_first isNumber cut
  refine ⟨first, ?_⟩
  rw [← List.append_assoc] at rest
  rcases List.append_eq_append_iff.1 rest.symm with ⟨beyond, split, ends⟩ | ⟨last, split, ends⟩
  · cases beyond with
    | nil => exact ⟨[], begins, by simpa using split.symm, by simpa using ends.symm⟩
    | cons c others =>
        -- A number that went on past the digits would end in their scale letter.
        obtain ⟨rfl, rest⟩ := List.cons.inj ends
        obtain ⟨rfl, rfl⟩ := List.append_eq_nil_iff.1 rest.symm
        have last : 'k' ∈ number.getLast? := by
          have whole := congrArg List.getLast? split
          rw [List.getLast?_append, List.getLast?_concat] at whole
          rwa [List.getLast?_eq_some_getLast isNumber.ne_nil] at whole ⊢
        rcases isNumber.mem (List.mem_of_getLast? last) with digit | comma | point
        · exact absurd digit (by decide)
        · exact absurd comma (by decide)
        · exact absurd point (by decide)
  · exact ⟨last, begins, by rw [split, List.append_assoc], ends⟩

include lone

/-- Nothing but digits and a scale letter follows a number in the text. -/
theorem of_mem_after
    {before number after : Text}
    {c : Char}
    (isNumber : IsNumber number)
    (cut : before ++ (number ++ after) = text)
    (member : c ∈ after) :
    isWordDigit c = true ∨ c = 'k' := by
  obtain ⟨first, last, -, split, rfl⟩ := lone.exists_cut isNumber cut
  rcases List.mem_append.1 member with member | member
  · exact .inl (lone.all c (by simp [split, member]))
  · exact .inr (List.mem_singleton.1 member)

/-- A number in the text runs on into a word. -/
theorem startsWithWord_after
    {before number after : Text}
    (isNumber : IsNumber number)
    (cut : before ++ (number ++ after) = text) :
    Cursor.startsWithWord after = true := by
  obtain ⟨first, last, -, split, rfl⟩ := lone.exists_cut isNumber cut
  cases last with
  | nil => decide
  | cons c last => exact isWord_of_isWordDigit (lone.all c (by simp [split]))

/-- A pattern takes nothing of the text if it needs more than digits and a scale letter after a
number. -/
theorem findAll_eq_nil
    {pattern : Pattern}
    (forms : ∀ found ∈ pattern.findAll text, ∃ opening number closing,
      found.text = opening ++ (number ++ closing) ∧ IsNumber number ∧
        ∃ c ∈ closing, isWordDigit c = false ∧ c ≠ 'k') :
    pattern.findAll text = [] := by
  apply List.eq_nil_iff_forall_not_mem.2
  intro found member
  obtain ⟨opening, number, closing, form, isNumber, c, known, notDigit, notScale⟩ :=
    forms found member
  have cut : found.before.reverse ++ opening ++ (number ++ (closing ++ found.after)) = text := by
    rw [← (whole_of_mem_findAll member).1, form]
    simp
  rcases lone.of_mem_after isNumber cut (List.mem_append_left _ known) with digit | scale
  · simp [digit] at notDigit
  · exact notScale scale

/-- The words before the digits do not end in a currency sign. -/
theorem ne_append_sign
    {before rest : Text}
    (blank : isBlank rest = true) :
    before ++ ['$'] ++ rest ≠ lone.lead ++ lone.words ++ lone.gap := by
  intro cut
  have marked : EndsVisible ['$'] := by
    unfold EndsVisible
    decide
  have visible := marked.append (by decide) before
  have visible' := lone.announces.endsVisible.append lone.announces.ne_nil lone.lead
  obtain ⟨words, -⟩ := eq_of_append_isBlank visible visible' blank lone.blank cut
  have notMark : ∀ c ∈ lone.words, (c == '$') = false := by
    intro c member
    exact beq_false_of_ne (lone.announces.of_mem member).2
  have nothing : ['$'] = [] :=
    eq_nil_of_append_eq lone.announces.ne_nil notMark (by decide) words.symm
  exact absurd nothing (by decide)

/-- A limit before a number in the text is the one that it ends in, and there is no currency
sign. -/
theorem exists_last_of_limit
    {other : Side}
    {before words gap sign number after : Text}
    (announces : other.Announces words)
    (spaced : gap ≠ [])
    (blank : isBlank gap = true)
    (isSign : IsSign sign)
    (isNumber : IsNumber number)
    (cut : before ++ (words ++ (gap ++ (sign ++ (number ++ after)))) = text) :
    other = side ∧ sign = [] ∧ ∃ last, lone.digits = number ++ last ∧ after = last ++ ['k'] := by
  have whole : before ++ (words ++ (gap ++ sign)) ++ (number ++ after) = text := by
    simpa only [List.append_assoc] using cut
  obtain ⟨first, last, front, split, ends⟩ := lone.exists_cut isNumber whole
  have notDigit : ∀ c ∈ gap ++ sign, isWordDigit c = false := by
    intro c member
    rcases List.mem_append.1 member with member | member
    · exact isWordDigit_of_isBlank blank member
    · exact isSign.isWordDigit member
  have digits : ∀ c ∈ first, isWordDigit c = true := by
    intro c member
    exact lone.all c (by simp [split, member])
  obtain rfl : first = [] := by
    rw [← List.append_assoc] at front
    exact eq_nil_of_append_eq (List.append_ne_nil_of_left_ne_nil spaced sign) notDigit digits front
  rw [List.append_nil, LoneLimit.front, ← List.append_assoc lone.lead] at front
  rcases isSign with rfl | ⟨rest, rfl, restBlank⟩
  · have visible' := lone.announces.endsVisible.append lone.announces.ne_nil lone.lead
    have visible := announces.endsVisible.append announces.ne_nil before
    rw [List.append_nil, ← List.append_assoc] at front
    obtain ⟨words, -⟩ := eq_of_append_isBlank visible visible' blank lone.blank front
    exact ⟨announces.side_eq lone.announces words, rfl, last, split, ends⟩
  · have cut : before ++ (words ++ gap) ++ ['$'] ++ rest = lone.lead ++ lone.words ++ lone.gap := by
      rw [← front]
      simp
    exact absurd cut (lone.ne_append_sign restBlank)

/-- A character that is no digit follows a number in the text only as the scale letter at its
end. -/
theorem eq_nil_of_cons_eq
    {number last after : Text}
    {c : Char}
    (split : lone.digits = number ++ last)
    (notDigit : isWordDigit c = false)
    (ends : c :: after = last ++ ['k']) :
    last = [] ∧ c = 'k' ∧ after = [] := by
  cases last with
  | nil =>
      obtain ⟨same, rest⟩ := List.cons.inj ends
      exact ⟨rfl, same, rest⟩
  | cons d last =>
      obtain ⟨rfl, -⟩ := List.cons.inj ends
      simp [lone.all c (by simp [split])] at notDigit

theorem findAll_years
    {pattern : Pattern}
    (known : pattern ∈ Years.patterns) :
    pattern.findAll text = [] := by
  apply List.eq_nil_iff_forall_not_mem.2
  intro found member
  obtain ⟨lead, digits, form, -, isYear, -, ended⟩ :=
    Years.exists_lead_of_takes known (takes_of_mem_findAll member)
  have cut : found.before.reverse ++ lead ++ (digits ++ found.after) = text := by
    rw [← (whole_of_mem_findAll member).1, form]
    simp
  have runsOn := lone.startsWithWord_after isYear.isNumber cut
  simp [ended] at runsOn

theorem findAll_orBelow : Mileage.orBelow.findAll text = [] := by
  apply lone.findAll_eq_nil
  intro found member
  obtain ⟨-, ⟨_, unit, form, ⟨_, word, rfl, ⟨_, more, rfl, ⟨_, gap, rfl, ⟨digits, scale, rfl,
    isNumber, -⟩, isGap⟩, -⟩, -⟩, -⟩, -⟩ := takes_bounded.1 (takes_of_mem_findAll member)
  obtain ⟨nonempty, blank⟩ := takes_blank.1 isGap
  obtain ⟨c, member, other⟩ := exists_space nonempty blank
  refine ⟨[], digits, scale ++ (gap ++ (more ++ (word ++ unit))), by simpa using form,
    isNumber_of_takes isNumber, c, ?_, other⟩
  simp [member]

theorem findAll_limitWithUnit (other : Side) :
    (Mileage.limitWithUnit other.limit).findAll text = [] := by
  apply lone.findAll_eq_nil
  intro found member
  obtain ⟨form⟩ := Mileage.nonempty_unitForm member
  have letters : ∀ name ∈ distanceWords, 'm' ∈ name.toList := by decide
  refine ⟨form.words ++ form.gap, form.digits,
    form.gap' ++ (form.letter ++ (form.gap'' ++ form.unit.toList)), ?_, form.isNumber, 'm', ?_,
    by decide, by decide⟩
  · rw [form.whole, List.append_assoc]
  · simp [letters form.unit form.known]

theorem findAll_between : Budget.between.findAll text = [] := by
  apply lone.findAll_eq_nil
  intro found member
  obtain ⟨form⟩ := Budget.nonempty_betweenForm member
  obtain ⟨c, member, other⟩ := exists_space form.spaced' form.blank'
  refine ⟨"between".toList ++ (form.gap ++ form.first.sign), form.first.digits,
    form.first.letter ++ (form.gap' ++ ("and".toList ++ (form.gap'' ++ form.second.text))), ?_,
    form.first.isNumber, c, ?_, other⟩
  · simp only [form.whole, Sum.text, List.append_assoc]
  · simp [member]

theorem findAll_bareRange : Budget.bareRange.findAll text = [] := by
  apply lone.findAll_eq_nil
  intro found member
  obtain ⟨form⟩ := Budget.nonempty_rangeForm member
  have marked : ∃ c ∈ form.mark, isWordDigit c = false ∧ c ≠ 'k' := by
    rcases form.known with dash | word
    · exact ⟨'-', by simp [dash], by decide, by decide⟩
    · exact ⟨'t', by simp [word], by decide, by decide⟩
  obtain ⟨c, member, other⟩ := marked
  refine ⟨form.first.sign, form.first.digits,
    form.first.letter ++ (form.gap ++ (form.mark ++ (form.gap' ++ form.second.text))), ?_,
    form.first.isNumber, c, ?_, other⟩
  · simp only [form.whole, Sum.text, List.append_assoc]
  · simp [member]

variable {other : Side} {found : Match}

/-- A limit in thousands is the one that the text ends in. -/
theorem of_mem_limitInThousands
    (member : found ∈ (Mileage.limitInThousands other.limit).findAll text) :
    other = side ∧ found.after = [] ∧
      found.thousands? .left = Amount.read? lone.digits (some ['k']) := by
  obtain ⟨form⟩ := Mileage.nonempty_thousandsForm member
  have cut : found.before.reverse ++ (form.words ++ (form.gap ++ ([] ++ (form.digits ++
      'k' :: found.after)))) = text := by
    rw [← (whole_of_mem_findAll member).1, form.whole]
    simp
  obtain ⟨same, -, last, split, ends⟩ :=
    lone.exists_last_of_limit form.announces form.spaced form.blank (.inl rfl) form.isNumber cut
  obtain ⟨rfl, -, after⟩ := lone.eq_nil_of_cons_eq split (by decide) ends
  exact ⟨same, after, by rw [form.value, split, List.append_nil]⟩

/-- A limit with an amount is the one that the text ends in. -/
theorem of_mem_limited
    (member : found ∈ (Budget.limited other.limit).findAll text) :
    other = side ∧ found.after = [] ∧
      found.amount? .left .leftScale = Amount.read? lone.digits (some ['k']) := by
  obtain ⟨form⟩ := Budget.nonempty_limitForm member
  have cut : found.before.reverse ++ (form.words ++ (form.gap ++ (form.sum.sign ++
      (form.sum.digits ++ (form.sum.letter ++ found.after))))) = text := by
    rw [← (whole_of_mem_findAll member).1, form.whole, Sum.text]
    simp
  obtain ⟨same, -, last, split, ends⟩ := lone.exists_last_of_limit form.announces form.spaced
    form.blank form.sum.isSign form.sum.isNumber cut
  have value := form.value
  rw [Sum.value?, Sum.suffix?] at value
  rcases form.sum.isLetter with none | thousands | millions
  · -- Without a letter the amount would end within a word.
    have whole : found.before.reverse ++ (form.words ++ (form.gap ++ form.sum.sign)) ++
        (form.sum.digits ++ found.after) = text := by simpa [none] using cut
    have inWord := lone.startsWithWord_after form.sum.isNumber whole
    have solid : ∀ c ∈ form.sum.digits, isWord c = true := by
      intro c member
      exact isWord_of_isWordDigit (lone.all c (by simp [split, member]))
    have closes : Cursor.atBoundary ⟨(form.words ++ (form.gap ++ form.sum.sign) ++
        form.sum.digits).reverse ++ found.before, found.after⟩ = true := by
      simpa [form.whole, Sum.text, none] using form.closes
    rw [startsWithWord_eq_false_of_solid closes form.sum.isNumber.ne_nil solid] at inWord
    cases inWord
  · rw [thousands] at ends value
    obtain ⟨rfl, -, after⟩ := lone.eq_nil_of_cons_eq split (by decide) ends
    exact ⟨same, after, by rw [value, split, List.append_nil]; rfl⟩
  · rw [millions] at ends
    obtain ⟨-, impossible, -⟩ := lone.eq_nil_of_cons_eq split (by decide) ends
    exact absurd impossible (by decide)

/-- The limit is read as one in thousands. -/
theorem exists_limitInThousands :
    ∃ found, found ∈ (Mileage.limitInThousands side.limit).findAll text := by
  have body : (side.limit ++ Pattern.blank ++ number .left ++ only 'k').Takes lone.lead.reverse
      (lone.words ++ (lone.gap ++ (lone.digits ++ ['k']))) [] := by
    refine ⟨_, ['k'], by simp, ⟨_, lone.digits, rfl, ⟨lone.words, lone.gap, rfl, ?_, ?_⟩, ?_⟩, ?_⟩
    · exact Side.takes_limit.2 lone.announces
    · exact takes_blank.2 ⟨lone.spaced, lone.blank⟩
    · exact takes_number.2 (isNumber_of_digits lone.nonempty lone.all)
    · exact takes_only.2 rfl
  have starts := lone.announces.startsWithWord (lone.gap ++ (lone.digits ++ ['k']))
  have takes : (Mileage.limitInThousands side.limit).Takes lone.lead.reverse
      (lone.words ++ (lone.gap ++ (lone.digits ++ ['k']))) [] := by
    refine takes_bounded.2 ⟨?_, body, ?_⟩
    · simp [Cursor.atBoundary, lone.fresh, starts]
    · simp [Cursor.atBoundary, Cursor.startsWithWord, isWord_scale]
  obtain ⟨found, member, -⟩ := exists_found_of_takes (by cases side <;> decide)
    (by simpa using lone.whole) takes
  exact ⟨found, member⟩

/-- The limit is read as one with an amount. -/
theorem exists_limited :
    ∃ found, found ∈ (Budget.limited side.limit).findAll text := by
  have starts := lone.announces.startsWithWord (lone.gap ++ (lone.digits ++ ['k']))
  have takes : (Budget.limited side.limit).Takes lone.lead.reverse
      (lone.words ++ (lone.gap ++ (lone.digits ++ ['k']))) [] := by
    refine ⟨_, lone.digits ++ ['k'], by simp, ⟨_, lone.gap, rfl, ⟨[], lone.words, rfl, ⟨rfl, ?_⟩,
      ?_⟩, ?_⟩, ?_⟩
    · simp [Cursor.atBoundary, lone.fresh, starts]
    · exact Side.takes_limit.2 lone.announces
    · exact takes_blank.2 ⟨lone.spaced, lone.blank⟩
    · refine ⟨_, [], (List.append_nil _).symm, ⟨lone.digits, ['k'], rfl, ⟨[], lone.digits, rfl,
        .inr rfl, ?_⟩, .inl ?_⟩, rfl, ?_⟩
      · exact takes_number.2 (isNumber_of_digits lone.nonempty lone.all)
      · exact ⟨'k', rfl, by decide⟩
      · simp [Cursor.atBoundary, Cursor.startsWithWord, isWord_scale]
  obtain ⟨found, member, -⟩ := exists_found_of_takes (by cases side <;> decide)
    (by simpa using lone.whole) takes
  exact ⟨found, member⟩

end LoneLimit
end Figure
end SearchPhrase
