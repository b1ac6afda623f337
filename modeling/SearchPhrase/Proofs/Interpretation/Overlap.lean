import SearchPhrase.Proofs.Phrase.Sources

/-!
# Where claims overlap

Prices never overlap what years and distances have claimed.  Years and distances are read without
regard to each other, and they overlap exactly where the digits of a year are a group of digits in
the number of a distance.
-/

namespace SearchPhrase

open Cursor Figure Mileage Text Unicode Years

/-- No word within a claim for years begins like a word within a claim for a distance. -/
theorem Mileage.companion_ne_claimWord
    {name word : String}
    {rest others : Text}
    (companion : name ∈ companions)
    (known : word ∈ claimWords) :
    name.toList ++ rest ≠ word.toList ++ others :=
  append_ne_append_of_beginApart (by decide) companion known rest others

/-- A word that begins within a year is the year. -/
theorem Years.IsYear.eq_of_wordBegins
    {digits middle rest : Text}
    (isYear : IsYear digits)
    (begins : WordBegins middle rest)
    (same : middle ++ rest = digits) :
    middle = [] ∧ rest = digits := by
  have solid : ∀ c ∈ middle ++ rest, Unicode.isWord c = true := by
    rw [same]
    exact isYear.isWord
  obtain rfl := begins.eq_nil_of_solid solid
  exact ⟨rfl, same⟩

/-- Between the two years of a range stands no word but what marks the range. -/
theorem Years.phrased_rangeMark
    {gap mark gap' : Text}
    (blank : isBlank gap = true)
    (known : mark = ['-'] ∨ mark = ['t', 'o'])
    (blank' : isBlank gap' = true) :
    Phrased (fun word => word = ['t', 'o']) (gap ++ (mark ++ gap')) := by
  apply Phrased.append (.of_isBlank blank)
  refine Phrased.append ?_ (.of_isBlank blank')
  rcases known with rfl | rfl
  · exact .apart (by decide) .nil
  · exact .of_word rfl

/-- Within a claim for years a word begins at the year, at a word, or at the first of two years. -/
theorem Years.Lead.rest_of_cut
    {lead digits head rest : Text}
    (shape : Lead lead)
    (isYear : IsYear digits)
    (split : head ++ rest = lead ++ digits)
    (begins : WordBegins head rest) :
    (head = lead ∧ rest = digits) ∨
      (∃ word ∈ claimWords, ∃ others, rest = word.toList ++ others) ∨
        ∃ first gap mark others, IsYear first ∧ isBlank gap = true ∧
          (mark = ['-'] ∨ mark = ['t', 'o']) ∧ rest = first ++ (gap ++ (mark ++ others)) := by
  cases shape with
  | nothing => exact .inl (isYear.eq_of_wordBegins begins split)
  | @word word gap known blank =>
      have member := mem_claimWords known
      rw [List.append_assoc] at split
      rcases begins.eq_nil_or_append (of_areWords areWords_claimWords member).2.1 split with
        ⟨-, same⟩ | ⟨middle, rfl, tail⟩
      · exact .inr (.inl ⟨word, member, _, same⟩)
      · have phrased : Phrased (fun _ => False) gap := .of_isBlank blank
        rcases phrased.word_of_cut (fun _ impossible => impossible.elim) tail
            begins.of_append with ⟨_, impossible, -⟩ | ⟨later, rfl, past⟩
        · exact impossible.elim
        · obtain ⟨rfl, same⟩ := isYear.eq_of_wordBegins begins.of_append.of_append past
          exact .inl ⟨by simp, same⟩
  | @range first gap mark gap' isFirst blank known blank' =>
      rw [List.append_assoc, List.append_assoc, List.append_assoc] at split
      rcases begins.eq_nil_or_append isFirst.isWord split with ⟨-, same⟩ | ⟨middle, rfl, tail⟩
      · exact .inr (.inr ⟨first, gap, mark, _, isFirst, blank, known, same⟩)
      · have solid : ∀ word, word = ['t', 'o'] → ∀ c ∈ word, isWord c = true := by
          rintro word rfl
          exact (of_areWords areWords_claimWords (by decide : "to" ∈ claimWords)).2.1
        have whole : middle ++ rest = gap ++ (mark ++ gap') ++ digits := by simpa using tail
        rcases (phrased_rangeMark blank known blank').word_of_cut solid whole begins.of_append with
          ⟨_, rfl, others, same⟩ | ⟨later, rfl, past⟩
        · exact .inr (.inl ⟨"to", by decide, others, same⟩)
        · obtain ⟨rfl, same⟩ := isYear.eq_of_wordBegins begins.of_append.of_append past
          exact .inl ⟨by simp, same⟩

/-- Digits at the start of a number that no digit follows are a first part of it. -/
theorem Figure.exists_tail_of_digits
    {digits rest part closing : Text}
    (all : ∀ c ∈ digits, isWordDigit c = true)
    (apart : startsWithDigit closing = false)
    (same : digits ++ rest = part ++ closing) :
    ∃ tail, part = digits ++ tail ∧ rest = tail ++ closing := by
  rcases List.append_eq_append_iff.1 same with ⟨tail, split, after⟩ | ⟨more, split, after⟩
  · exact ⟨tail, split, after⟩
  · cases more with
    | nil => exact ⟨[], by simpa using split.symm, by simpa using after.symm⟩
    | cons c others =>
        rw [after, List.cons_append, startsWithDigit, all c (by simp [split])] at apart
        simp at apart

/-- The letters that follow the number of a distance are no digits, no white space, and no part of
what makes a range. -/
theorem Mileage.of_mem_followLetters {c : Char} (letter : c ∈ ['k', 'm', 'o']) :
    isWordDigit c = false ∧ isWhiteSpace c = false ∧ c ∉ ['-', 't'] := by
  simp only [List.mem_cons, List.not_mem_nil, or_false] at letter
  rcases letter with rfl | rfl | rfl <;> decide

theorem Mileage.Surrounds.startsWithDigit_closing
    {opening closing : Text}
    (surrounds : Surrounds opening closing)
    (after : Text) :
    startsWithDigit (closing ++ after) = false := by
  obtain ⟨gap, c, rest, rfl, blank, letter⟩ := surrounds.follows
  cases gap with
  | nil => exact (of_mem_followLetters letter).1
  | cons d gap =>
      rw [isBlank, List.all_cons, Bool.and_eq_true] at blank
      apply Bool.eq_false_iff.2
      intro digit
      have inWord := isWord_of_isWordDigit (c := d) digit
      simp [isWord_of_isWhiteSpace blank.1] at inWord

theorem Mileage.Surrounds.byteLength_closing_pos
    {opening closing : Text}
    (surrounds : Surrounds opening closing) :
    0 < byteLength closing := by
  obtain ⟨gap, c, rest, rfl, -⟩ := surrounds.follows
  exact byteLength_pos (by simp)

theorem Text.head?_trimStart_append
    {gap rest : Text}
    {c : Char}
    (blank : isBlank gap = true)
    (visible : isWhiteSpace c = false) :
    (trimStart (gap ++ c :: rest)).head? = some c := by
  induction gap with
  | nil => simp [trimStart, visible]
  | cons d gap ih =>
      rw [isBlank, List.all_cons, Bool.and_eq_true] at blank
      rw [List.cons_append, trimStart, List.dropWhile_cons_of_pos blank.1]
      exact ih blank.2

/-- What follows the number of a distance, or a group of digits in it, is not what makes a range. -/
theorem Mileage.Surrounds.ne_range
    {opening closing part tail gap mark rest after : Text}
    (surrounds : Surrounds opening closing)
    (isNumber : IsNumber (part ++ tail))
    (blank : isBlank gap = true)
    (known : mark = ['-'] ∨ mark = ['t', 'o']) :
    gap ++ (mark ++ rest) ≠ tail ++ (closing ++ after) := by
  have marked : ∃ c ∈ ['-', 't'], (trimStart (gap ++ (mark ++ rest))).head? = some c := by
    rcases known with rfl | rfl
    · exact ⟨'-', by simp, head?_trimStart_append blank (by decide)⟩
    · exact ⟨'t', by simp, head?_trimStart_append blank (by decide)⟩
  obtain ⟨c, mark, first⟩ := marked
  intro same
  rw [same] at first
  cases tail with
  | nil =>
      obtain ⟨gap', d, others, rfl, blank', letter⟩ := surrounds.follows
      obtain ⟨-, visible, apart⟩ := of_mem_followLetters letter
      rw [List.nil_append, List.append_assoc, List.cons_append,
        head?_trimStart_append blank' visible] at first
      obtain rfl := Option.some.inj first
      exact apart mark
  | cons d tail =>
      have member : d ∈ part ++ d :: tail := by simp
      have visible := isNumber.isWhiteSpace member
      have apart : isWordDigit c = false ∧ c ≠ ',' ∧ c ≠ '.' := by
        simp only [List.mem_cons, List.not_mem_nil, or_false] at mark
        rcases mark with rfl | rfl <;> decide
      obtain ⟨notDigit, notComma, notPoint⟩ := apart
      rw [List.cons_append, trimStart, List.dropWhile_cons_of_neg (by simp [visible])] at first
      obtain rfl := Option.some.inj first
      rcases isNumber.mem member with digit | comma | point
      · simp [notDigit] at digit
      · exact notComma comma
      · exact notPoint point

section Cuts

variable {lead digits opening number closing head rest after after' : Text}

/-- A claim for a distance that begins within a claim for years begins with the year. -/
theorem Mileage.number_within_years
    (shape : Lead lead)
    (isYear : IsYear digits)
    (surrounds : Surrounds opening closing)
    (isNumber : IsNumber number)
    (split : head ++ rest = lead ++ digits)
    (same : rest ++ after = opening ++ (number ++ closing) ++ after')
    (begins : WordBegins head rest) :
    head = lead ∧ opening = [] ∧ ∃ tail, number = digits ++ tail ∧
      after = tail ++ (closing ++ after') := by
  have notDigit := surrounds.startsWithDigit_closing after'
  rcases surrounds.before with rfl | isLimit
  · -- The distance begins with its number, so that the words of the other claim are ruled out.
    rw [List.nil_append, List.append_assoc] at same
    rcases shape.rest_of_cut isYear split begins with
      ⟨rfl, rfl⟩ | ⟨word, known, more, rfl⟩ | ⟨first, gap, mark, more, isFirst, blank, known, rfl⟩
    · obtain ⟨tail, whole, later⟩ :=
        exists_tail_of_digits (fun _ => isYear.isWordDigit) notDigit same
      exact ⟨rfl, rfl, tail, whole, later⟩
    · have letter := startsWithDigit_name_append areWords_claimWords known (more ++ after)
      rw [← List.append_assoc, same, isNumber.startsWithDigit] at letter
      cases letter
    · rw [List.append_assoc, List.append_assoc, List.append_assoc] at same
      obtain ⟨tail, rfl, later⟩ :=
        exists_tail_of_digits (fun _ => isFirst.isWordDigit) notDigit same
      exact absurd later (surrounds.ne_range isNumber blank known)
  · -- The distance begins with a limit, so that the digits of the other claim are ruled out.
    obtain ⟨limit, known, others, rfl⟩ := isLimit.begins
    have companion := mem_companions known
    rw [List.append_assoc, List.append_assoc] at same
    have notYear : startsWithDigit (rest ++ after) = false := by
      rw [same]
      exact startsWithDigit_name_append areWords_companions companion _
    rcases shape.rest_of_cut isYear split begins with
      ⟨rfl, rfl⟩ | ⟨word, known, more, rfl⟩ | ⟨first, gap, mark, more, isFirst, blank, known, rfl⟩
    · rw [isYear.startsWithDigit] at notYear
      cases notYear
    · rw [List.append_assoc] at same
      exact absurd same.symm (companion_ne_claimWord companion known)
    · rw [List.append_assoc, isFirst.startsWithDigit] at notYear
      cases notYear

/-- A claim for years does not begin like a word within a claim for a distance. -/
theorem Years.Lead.ne_companion
    (shape : Lead lead)
    (isYear : IsYear digits)
    {word : Text}
    (companion : IsCompanion word)
    {others : Text} :
    lead ++ digits ++ after ≠ word ++ others := by
  obtain ⟨name, known, rfl⟩ := companion
  have letter := startsWithDigit_name_append areWords_companions known others
  intro same
  cases shape with
  | nothing =>
      rw [← same, List.nil_append, isYear.startsWithDigit] at letter
      cases letter
  | word member blank =>
      rw [List.append_assoc, List.append_assoc] at same
      exact companion_ne_claimWord known (mem_claimWords member) same.symm
  | range isFirst blank member blank' =>
      rw [← same, List.append_assoc, List.append_assoc, isFirst.startsWithDigit] at letter
      cases letter

/-- No claim for years begins within what follows the number of a distance. -/
theorem Years.Lead.ne_closing
    (shape : Lead lead)
    (isYear : IsYear digits)
    (surrounds : Surrounds opening closing)
    (same : rest ++ after' = lead ++ digits ++ after)
    (begins : WordBegins head rest) :
    head ++ rest ≠ closing := by
  intro whole
  have cut : head ++ rest = closing ++ [] := by rw [whole, List.append_nil]
  rcases surrounds.after.word_of_cut (fun _ => IsCompanion.isWord) cut begins with
    ⟨word, companion, others, rfl⟩ | ⟨later, -, past⟩
  · rw [List.append_assoc] at same
    exact shape.ne_companion isYear companion same.symm
  · exact begins.ne_nil (List.append_eq_nil_iff.1 past).2

/-- A claim for years that begins within the number of a distance is a year there. -/
theorem Years.year_within_number
    {front part : Text}
    (shape : Lead lead)
    (isYear : IsYear digits)
    (surrounds : Surrounds opening closing)
    (isNumber : IsNumber (front ++ part))
    (starts : startsWithWord part = true)
    (same : part ++ (closing ++ after') = lead ++ digits ++ after) :
    lead = [] ∧ ∃ tail, part = digits ++ tail ∧ after = tail ++ (closing ++ after') := by
  have notDigit := surrounds.startsWithDigit_closing after'
  cases shape with
  | nothing =>
      obtain ⟨tail, split, later⟩ :=
        exists_tail_of_digits (fun _ => isYear.isWordDigit) notDigit same.symm
      exact ⟨rfl, tail, split, later⟩
  | @word word gap known blank =>
      -- The claim begins with a digit of the number, and so not with a word.
      have digit := isNumber.startsWithDigit_of_startsWithWord starts
      have nonempty : part ≠ [] := by
        rintro rfl
        cases starts
      have letter := startsWithDigit_name_append areWords_claimWords (mem_claimWords known)
        (gap ++ digits ++ after)
      rw [← List.append_assoc, ← List.append_assoc, ← same, startsWithDigit_append nonempty,
        digit] at letter
      cases letter
  | range isFirst blank known blank' =>
      rw [List.append_assoc, List.append_assoc, List.append_assoc, List.append_assoc] at same
      obtain ⟨tail, rfl, later⟩ :=
        exists_tail_of_digits (fun _ => isFirst.isWordDigit) notDigit same.symm
      rw [← List.append_assoc] at isNumber
      exact absurd later (surrounds.ne_range isNumber blank known)

/-- A claim for years that begins within a claim for a distance is a year in its number. -/
theorem Years.year_within_distance
    (shape : Lead lead)
    (isYear : IsYear digits)
    (surrounds : Surrounds opening closing)
    (isNumber : IsNumber number)
    (split : head ++ rest = opening ++ (number ++ closing))
    (same : rest ++ after' = lead ++ digits ++ after)
    (begins : WordBegins head rest) :
    lead = [] ∧ ∃ front tail, head = opening ++ front ∧ number = front ++ (digits ++ tail) ∧
      after = tail ++ (closing ++ after') := by
  rcases surrounds.phrased.word_of_cut (fun _ => IsCompanion.isWord) split begins with
    ⟨word, companion, others, rfl⟩ | ⟨middle, rfl, past⟩
  · rw [List.append_assoc] at same
    exact absurd same.symm (shape.ne_companion isYear companion)
  have begins : WordBegins middle rest := begins.of_append
  rcases List.append_eq_append_iff.1 past with ⟨part, rfl, whole⟩ | ⟨beyond, rfl, whole⟩
  · by_cases nothing : part = []
    · subst nothing
      have atStart : WordBegins [] rest := ⟨rfl, begins.starts⟩
      exact absurd whole (shape.ne_closing isYear surrounds same atStart)
    · have starts := begins.starts
      rw [whole, startsWithWord_append nothing] at starts
      rw [whole, List.append_assoc] at same
      obtain ⟨rfl, tail, rfl, later⟩ :=
        year_within_number shape isYear surrounds isNumber starts same
      exact ⟨rfl, middle, tail, rfl, rfl, later⟩
  · exact absurd whole.symm (shape.ne_closing isYear surrounds same begins.of_append)

end Cuts

/-- A number of which a group of digits is claimed for years and which is claimed as a whole for a
distance. -/
structure SharedNumber (text : Text) (year distance : Span) where
  /-- The text before the number. -/
  before : Text
  /-- The part of the number before the year. -/
  front : Text
  /-- The year. -/
  digits : Text
  /-- The part of the number after the year. -/
  tail : Text
  /-- The text after the number. -/
  after : Text
  /-- Together they are the whole text. -/
  whole : before ++ (front ++ (digits ++ tail) ++ after) = text
  /-- The number is one of a distance. -/
  isNumber : IsNumber (front ++ (digits ++ tail))
  /-- The digits are a year. -/
  isYear : IsYear digits
  /-- The digits do not continue others. -/
  begins : WordBegins front digits
  /-- The digits are not continued by others. -/
  ends : startsWithWord tail = false
  /-- The claim for years ends with the digits. -/
  year_stop : year.stop = byteLength (before ++ (front ++ digits))
  /-- The claim for a distance begins no later than the number. -/
  distance_start : distance.start ≤ byteLength before
  /-- The claim for a distance goes on after the number. -/
  distance_stop : byteLength (before ++ (front ++ (digits ++ tail))) < distance.stop

/-- A stretch that is claimed for years. -/
structure Years.Claim {text : Text} (stretch : Stretch text) where
  /-- What leads up to the year. -/
  lead : Text
  /-- The year. -/
  digits : Text
  /-- Together they are the stretch. -/
  body : stretch.body = lead ++ digits
  /-- What leads up to the year may do so. -/
  shape : Lead lead
  /-- The digits are a year. -/
  isYear : IsYear digits
  /-- No word goes on into the stretch. -/
  fresh : startsWithWord stretch.before.reverse = false
  /-- No word goes on after the stretch. -/
  ends : startsWithWord stretch.after = false

theorem Years.exists_claim
    {text : Text}
    {year : Span}
    (claimed : year ∈ (Years.read text).spans) :
    ∃ stretch : Stretch text, stretch.span = year ∧ Nonempty (Years.Claim stretch) := by
  obtain ⟨pattern, known, found, member, rfl⟩ := (Years.isBuilt_read text).allowed claimed
  have takes := Pattern.takes_of_mem_findAll member
  obtain ⟨lead, digits, split, shape, isYear, fresh, ends⟩ :=
    Years.exists_lead_of_takes known takes
  refine ⟨.ofMatch member, Stretch.span_ofMatch member, ⟨lead, digits, split, shape, isYear, ?_,
    ends⟩⟩
  rwa [Stretch.ofMatch, List.reverse_reverse]

/-- A stretch that is claimed for a distance. -/
structure Mileage.Claim {text : Text} (stretch : Stretch text) where
  /-- What stands before the number. -/
  opening : Text
  /-- The number. -/
  number : Text
  /-- What stands after the number. -/
  closing : Text
  /-- Together they are the stretch. -/
  body : stretch.body = opening ++ (number ++ closing)
  /-- The number is written as one. -/
  isNumber : IsNumber number
  /-- What stands around the number makes it a distance. -/
  surrounds : Surrounds opening closing
  /-- No word goes on into the stretch. -/
  fresh : startsWithWord stretch.before.reverse = false

theorem Mileage.exists_claim
    {text : Text}
    {distance : Span}
    (claimed : distance ∈ (Mileage.read text).spans) :
    ∃ stretch : Stretch text, stretch.span = distance ∧ Nonempty (Mileage.Claim stretch) := by
  obtain ⟨pattern, known, found, member, rfl⟩ := (Mileage.isBuilt_read text).allowed claimed
  have takes := Pattern.takes_of_mem_findAll member
  obtain ⟨opening, number, closing, split, isNumber, surrounds, fresh⟩ :=
    Mileage.exists_number_of_takes known takes
  refine ⟨.ofMatch member, Stretch.span_ofMatch member, ⟨opening, number, closing, split, isNumber,
    surrounds, ?_⟩⟩
  rwa [Stretch.ofMatch, List.reverse_reverse]

theorem Text.startsWithWord_tail
    {tail rest : Text}
    (ends : startsWithWord (tail ++ rest) = false) :
    startsWithWord tail = false := by
  cases tail with
  | nil => rfl
  | cons c tail => exact ends

/-- A stretch that begins within another one, both with a word, begins with a word of it. -/
theorem Text.WordBegins.of_rest
    {before head rest after whole : Text}
    (fresh : startsWithWord (before ++ head).reverse = false)
    (nonempty : rest ≠ [])
    (same : rest ++ after = whole)
    (starts : startsWithWord whole = true) :
    WordBegins head rest := by
  have begins : WordBegins (before ++ head) rest := by
    refine ⟨fresh, ?_⟩
    rwa [← same, startsWithWord_append nonempty] at starts
  exact begins.of_append

namespace Interpretation

section Within

variable {text : Text} {first second : Stretch text} {head rest : Text}

/-- A claim for years shares a number with a claim for a distance that begins within it. -/
theorem nonempty_sharedNumber_of_years
    (years : Years.Claim first)
    (distance : Mileage.Claim second)
    (later : second.before = first.before ++ head)
    (split : first.body = head ++ rest)
    (nonempty : rest ≠ [])
    (same : rest ++ first.after = second.body ++ second.after) :
    Nonempty (SharedNumber text first.span second.span) := by
  obtain ⟨lead, digits, body, shape, isYear, -, ends⟩ := years
  obtain ⟨opening, number, closing, body', isNumber, surrounds, fresh⟩ := distance
  have starts : startsWithWord (second.body ++ second.after) = true := by
    rw [body']
    exact startsWithWord_surrounds surrounds isNumber second.after
  rw [later] at fresh
  have begins : WordBegins head rest := .of_rest fresh nonempty same starts
  rw [body'] at same
  rw [body] at split
  obtain ⟨rfl, rfl, tail, rfl, whole⟩ :=
    Mileage.number_within_years shape isYear surrounds isNumber split.symm same begins
  refine ⟨⟨first.before ++ head, [], digits, tail, closing ++ second.after, ?_, isNumber, isYear,
    ⟨rfl, isYear.startsWithWord⟩, ?_, ?_, ?_, ?_⟩⟩
  · have pieces := first.whole
    rw [body, whole] at pieces
    simpa using pieces
  · rw [whole] at ends
    exact startsWithWord_tail ends
  · simp [Stretch.span, body]
  · simp [Stretch.span, later]
  · have positive := surrounds.byteLength_closing_pos
    simp [Stretch.span, later, body']
    omega

/-- A claim for a distance shares a number with a claim for years that begins within it. -/
theorem nonempty_sharedNumber_of_distance
    (years : Years.Claim first)
    (distance : Mileage.Claim second)
    (later : first.before = second.before ++ head)
    (split : second.body = head ++ rest)
    (nonempty : rest ≠ [])
    (same : rest ++ second.after = first.body ++ first.after) :
    Nonempty (SharedNumber text first.span second.span) := by
  obtain ⟨lead, digits, body, shape, isYear, fresh, ends⟩ := years
  obtain ⟨opening, number, closing, body', isNumber, surrounds, -⟩ := distance
  have starts : startsWithWord (first.body ++ first.after) = true := by
    rw [body]
    exact startsWithWord_lead shape isYear first.after
  rw [later] at fresh
  have begins : WordBegins head rest := .of_rest fresh nonempty same starts
  rw [body] at same
  rw [body'] at split
  obtain ⟨rfl, front, tail, rfl, rfl, whole⟩ :=
    Years.year_within_distance shape isYear surrounds isNumber split.symm same begins
  refine ⟨⟨second.before ++ opening, front, digits, tail, closing ++ second.after, ?_, isNumber,
    isYear, ⟨begins.of_append.fresh, isYear.startsWithWord⟩, ?_, ?_, ?_, ?_⟩⟩
  · have pieces := second.whole
    rw [body'] at pieces
    simpa using pieces
  · rw [whole] at ends
    exact startsWithWord_tail ends
  · simp [Stretch.span, body, later, Nat.add_assoc]
  · simp [Stretch.span]
  · have positive := surrounds.byteLength_closing_pos
    simp [Stretch.span, body']
    omega

end Within

variable {text : Text} {year distance : Span}

/-- A year and a distance that overlap share a number. -/
theorem nonempty_sharedNumber_of_meets
    (yearClaimed : year ∈ (Years.read text).spans)
    (distanceClaimed : distance ∈ (Mileage.read text).spans)
    (meets : year.meets distance = true) :
    Nonempty (SharedNumber text year distance) := by
  obtain ⟨first, rfl, ⟨years⟩⟩ := Years.exists_claim yearClaimed
  obtain ⟨second, rfl, ⟨distance⟩⟩ := Mileage.exists_claim distanceClaimed
  rcases first.exists_rest_of_meets second meets with
    ⟨head, rest, later, split, nonempty, same⟩ | ⟨head, rest, later, split, nonempty, same⟩
  · exact nonempty_sharedNumber_of_years years distance later split nonempty same
  · exact nonempty_sharedNumber_of_distance years distance later split nonempty same

/-- A year and a distance overlap exactly where they share a number. -/
theorem meets_iff_sharedNumber
    (yearClaimed : year ∈ (Years.read text).spans)
    (distanceClaimed : distance ∈ (Mileage.read text).spans) :
    year.meets distance = true ↔ Nonempty (SharedNumber text year distance) := by
  constructor
  · exact nonempty_sharedNumber_of_meets yearClaimed distanceClaimed
  · rintro ⟨shared⟩
    obtain ⟨stretch, rfl, -⟩ := Years.exists_claim yearClaimed
    have forward : stretch.span.start ≤ stretch.span.stop := Nat.le_add_right _ _
    have positive := byteLength_pos shared.isYear.ne_nil
    have yearStop := shared.year_stop
    have distanceStart := shared.distance_start
    have distanceStop := shared.distance_stop
    simp only [byteLength_append] at yearStop distanceStop
    apply Span.meets_iff.2
    constructor <;> omega

/-- No stretch of a text is claimed for two quantities. -/
structure ClaimsApart (text : Text) : Prop where
  /-- Years and distances claim different stretches. -/
  years_distances : ∀ year ∈ (Years.read text).spans, ∀ distance ∈ (Mileage.read text).spans,
    year.meets distance = false
  /-- Prices claim other stretches than both. -/
  prices : ∀ price ∈ (openPrices text).spans, ∀ claim ∈ claimedSpans text,
    claim.meets price = false

theorem prices_apart (text : Text) :
    ∀ price ∈ (openPrices text).spans, ∀ claim ∈ claimedSpans text,
      claim.meets price = false := by
  intro price member
  have unclaimed := (Budget.isBuilt_read (claimedSpans text) text).allowed member
  exact Span.meetsAny_eq_false_iff.1 unclaimed

/-- Prices never overlap other claims, and no two claims overlap unless a year and a distance share
a number. -/
theorem claimsApart_iff (text : Text) :
    (∀ price ∈ (openPrices text).spans, ∀ claim ∈ claimedSpans text,
      claim.meets price = false) ∧
      (ClaimsApart text ↔
        ∀ year ∈ (Years.read text).spans, ∀ distance ∈ (Mileage.read text).spans,
          ¬Nonempty (SharedNumber text year distance)) := by
  refine ⟨prices_apart text, ?_⟩
  constructor
  · intro apart year yearClaimed distance distanceClaimed shared
    have meets := (meets_iff_sharedNumber yearClaimed distanceClaimed).2 shared
    simp [apart.years_distances year yearClaimed distance distanceClaimed] at meets
  · intro unshared
    refine ⟨?_, prices_apart text⟩
    intro year yearClaimed distance distanceClaimed
    apply Bool.eq_false_iff.2
    intro meets
    have shared := (meets_iff_sharedNumber yearClaimed distanceClaimed).1 meets
    exact unshared year yearClaimed distance distanceClaimed shared

/-- The digits before a point are a year, and with those after it they are a distance. -/
theorem not_claimsApart_fraction :
    (Years.read (Unicode.lowercase "from 1999.5k or below".toList)).spans = [⟨0, 9⟩] ∧
      (Mileage.read (Unicode.lowercase "from 1999.5k or below".toList)).spans = [⟨5, 21⟩] ∧
      ¬ClaimsApart (Unicode.lowercase "from 1999.5k or below".toList) := by
  have years : (Years.read (Unicode.lowercase "from 1999.5k or below".toList)).spans =
      [⟨0, 9⟩] := by
    decide +kernel
  have distances : (Mileage.read (Unicode.lowercase "from 1999.5k or below".toList)).spans =
      [⟨5, 21⟩] := by
    decide +kernel
  refine ⟨years, distances, ?_⟩
  intro apart
  have meets : Span.meets ⟨0, 9⟩ ⟨5, 21⟩ = false := by
    apply apart.years_distances
    · rw [years]
      exact List.mem_singleton.2 rfl
    · rw [distances]
      exact List.mem_singleton.2 rfl
  exact absurd meets (by decide)

end Interpretation
end SearchPhrase
