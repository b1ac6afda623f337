import SearchPhrase.Proofs.Phrase.Limits

/-!
# Amounts of money and where they are read

An amount of money is a number with a currency sign before it and a scale letter after it, of which
both may be missing.  Each pattern that prices are read by is a fixed arrangement of words and
amounts, and the bound that is read is the value of one of these amounts.
-/

namespace SearchPhrase

namespace Figure

open Pattern Text Unicode

/-- A dollar sign and white space after it, or nothing. -/
def IsSign (text : Text) : Prop :=
  text = [] ∨ ∃ gap, text = '$' :: gap ∧ isBlank gap = true

theorem IsSign.isWordDigit
    {text : Text}
    {c : Char}
    (isSign : IsSign text)
    (member : c ∈ text) :
    isWordDigit c = false := by
  rcases isSign with rfl | ⟨gap, rfl, blank⟩
  · exact absurd member List.not_mem_nil
  · rcases List.mem_cons.1 member with rfl | member
    · decide
    · exact isWordDigit_of_isBlank blank member

/-- An amount of money as it stands in a text. -/
structure Sum where
  /-- The currency sign and the white space after it. -/
  sign : Text
  /-- The number. -/
  digits : Text
  /-- The scale letter. -/
  letter : Text
  /-- The sign is a dollar sign, unless it is missing. -/
  isSign : IsSign sign
  /-- The number has the form of one. -/
  isNumber : IsNumber digits
  /-- The letter is that of thousands or of millions, unless it is missing. -/
  isLetter : letter = [] ∨ letter = ['k'] ∨ letter = ['m']

namespace Sum

/-- The text of an amount. -/
def text (sum : Sum) : Text :=
  sum.sign ++ (sum.digits ++ sum.letter)

theorem text_ne_nil (sum : Sum) : sum.text ≠ [] := by
  simp [text, sum.isNumber.ne_nil]

/-- The scale letter, if there is one. -/
def suffix? (sum : Sum) : Option Text :=
  if sum.letter.isEmpty then none else some sum.letter

/-- The amount that is meant. -/
def value? (sum : Sum) : Option UInt64 :=
  Amount.read? sum.digits sum.suffix?

/-- The parts that are recorded of an amount, the latest first. -/
def captures (sum : Sum) (slot scaleSlot : Slot) (before after : Text) : List Capture :=
  (if sum.letter.isEmpty then []
    else [.around scaleSlot (sum.digits.reverse ++ (sum.sign.reverse ++ before)) sum.letter after])
      ++ [.around slot (sum.sign.reverse ++ before) sum.digits (sum.letter ++ after)]

variable {sum : Sum} {slot scaleSlot : Slot} {before after : Text}

theorem slot_of_mem_captures
    {capture : Capture}
    (member : capture ∈ sum.captures slot scaleSlot before after) :
    capture.slot = slot ∨ capture.slot = scaleSlot := by
  rcases List.mem_append.1 member with member | member
  · split at member
    · exact absurd member List.not_mem_nil
    · rw [List.mem_singleton.1 member]
      exact .inr rfl
  · rw [List.mem_singleton.1 member]
    exact .inl rfl

/-- An occurrence holds the value of an amount whose parts it records under names of their own. -/
theorem amount?_eq_value?
    {found : Match}
    {early late : List Capture}
    (held : found.captures = late ++ (sum.captures slot scaleSlot before after ++ early))
    (apart : scaleSlot ≠ slot)
    (others : ∀ capture ∈ late ++ early, capture.slot ≠ slot ∧ capture.slot ≠ scaleSlot) :
    found.amount? slot scaleSlot = sum.value? := by
  have absent : ∀ {captures : List Capture} {name : Slot},
      (∀ capture ∈ captures, capture.slot ≠ name) →
        captures.find? (fun capture => capture.slot = name) = none := by
    intro captures name distinct
    simpa using distinct
  have number : found.slot? slot = some sum.digits := by
    have skipped := absent fun capture member =>
      (others capture (List.mem_append_left early member)).1
    rw [Match.slot?, held, List.find?_append, skipped, Sum.captures]
    split <;> simp [apart]
  have letter : found.slot? scaleSlot = sum.suffix? := by
    have skipped := absent fun capture member =>
      (others capture (List.mem_append_left early member)).2
    have ended := absent fun capture member =>
      (others capture (List.mem_append_right late member)).2
    rw [Match.slot?, held, List.find?_append, skipped, List.find?_append, ended, Sum.captures,
      suffix?]
    split <;> simp [apart.symm]
  rw [Match.amount?, number, letter]
  rfl

/-- An occurrence with two amounts holds the values of both. -/
theorem amounts?_eq_values?
    {first second : Sum}
    {found : Match}
    {before after before' after' : Text}
    (held : found.captures = second.captures .right .rightScale before' after' ++
      first.captures .left .leftScale before after) :
    found.amount? .left .leftScale = first.value? ∧
      found.amount? .right .rightScale = second.value? := by
  constructor
  · have held : found.captures = second.captures .right .rightScale before' after' ++
        (first.captures .left .leftScale before after ++ []) := by rw [held, List.append_nil]
    refine amount?_eq_value? held (by decide) ?_
    intro capture member
    rw [List.append_nil] at member
    rcases slot_of_mem_captures member with same | same <;> rw [same] <;> decide
  · have held : found.captures = [] ++ (second.captures .right .rightScale before' after' ++
        first.captures .left .leftScale before after) := held
    refine amount?_eq_value? held (by decide) ?_
    intro capture member
    rcases slot_of_mem_captures member with same | same <;> rw [same] <;> decide

end Sum

section Money

variable {before text after : Text}

/-- A pattern for money takes at most one white space after the sign. -/
theorem takes_currency : currency.Takes before text after ↔ IsSign text ∧ text.length ≤ 2 := by
  constructor
  · intro takes
    rcases takes_opt.1 takes with ⟨mark, gap, rfl, isMark, isGap⟩ | rfl
    · obtain rfl := takes_only.1 isMark
      rcases takes_opt.1 isGap with ⟨c, rfl, space⟩ | rfl
      · have blank : isBlank [c] = true := by simpa [isBlank, CharClass.accepts] using space
        exact ⟨.inr ⟨[c], rfl, blank⟩, Nat.le_refl 2⟩
      · exact ⟨.inr ⟨[], rfl, rfl⟩, by decide⟩
    · exact ⟨.inl rfl, Nat.zero_le 2⟩
  · rintro ⟨rfl | ⟨gap, rfl, blank⟩, short⟩
    · exact takes_opt.2 (.inr rfl)
    · refine takes_opt.2 (.inl ⟨['$'], gap, rfl, takes_only.2 rfl, ?_⟩)
      rcases gap with _ | ⟨c, _ | ⟨d, rest⟩⟩
      · exact takes_opt.2 (.inr rfl)
      · exact takes_opt.2 (.inl ⟨c, rfl, isBlank_iff.1 blank c List.mem_cons_self⟩)
      · simp at short

theorem takes_scaleLetter : scaleLetter.Takes before text after ↔ text = ['k'] ∨ text = ['m'] := by
  constructor
  · rintro ⟨c, rfl, accepted⟩
    rw [CharClass.accepts, Bool.or_eq_true] at accepted
    rcases accepted with thousands | millions
    · exact .inl (by rw [← beq_iff_eq.1 thousands])
    · exact .inr (by rw [← beq_iff_eq.1 millions])
  · rintro (rfl | rfl)
    · exact ⟨'k', rfl, rfl⟩
    · exact ⟨'m', rfl, rfl⟩

theorem takes_opt_scaleLetter :
    (opt scaleLetter).Takes before text after ↔ text = [] ∨ text = ['k'] ∨ text = ['m'] := by
  rw [takes_opt, takes_scaleLetter, or_comm]

/-- The amounts that a pattern for money takes. -/
theorem takes_money
    {slot scaleSlot : Slot} :
    (money slot scaleSlot).Takes before text after ↔
      ∃ sum : Sum, text = sum.text ∧ sum.sign.length ≤ 2 := by
  constructor
  · rintro ⟨_, letter, rfl, ⟨sign, digits, rfl, isSign, isNumber⟩, isLetter⟩
    obtain ⟨isSign, short⟩ := takes_currency.1 isSign
    have isLetter : (opt scaleLetter).Takes _ letter after := isLetter
    exact ⟨⟨sign, digits, letter, isSign, isNumber_of_takes isNumber,
      takes_opt_scaleLetter.1 isLetter⟩, List.append_assoc _ _ _, short⟩
  · rintro ⟨sum, rfl, short⟩
    have isLetter : (opt scaleLetter).Takes ((sum.sign ++ sum.digits).reverse ++ before) sum.letter
        after := takes_opt_scaleLetter.2 sum.isLetter
    exact ⟨sum.sign ++ sum.digits, sum.letter, (List.append_assoc _ _ _).symm,
      ⟨sum.sign, sum.digits, rfl, takes_currency.2 ⟨sum.isSign, short⟩,
        takes_number.2 sum.isNumber⟩, isLetter⟩

end Money

/-- The mark between the two ends of a range. -/
theorem eq_of_takes_mark
    {before text after : Text}
    (takes : (oneOf ["-", "to"]).Takes before text after) :
    text = ['-'] ∨ text = ['t', 'o'] := by
  obtain ⟨name, known, rfl⟩ := takes_oneOf.1 takes
  rcases List.mem_cons.1 known with rfl | known
  · exact .inl rfl
  · rw [List.mem_singleton.1 known]
    exact .inr rfl

/-- There is no digit in the mark between the two ends of a range and the white space around it. -/
theorem isWordDigit_of_mem_mark
    {gap mark gap' : Text}
    {c : Char}
    (blank : isBlank gap = true)
    (known : mark = ['-'] ∨ mark = ['t', 'o'])
    (blank' : isBlank gap' = true)
    (member : c ∈ gap ++ (mark ++ gap')) :
    isWordDigit c = false := by
  rcases List.mem_append.1 member with member | member
  · exact isWordDigit_of_isBlank blank member
  · rcases List.mem_append.1 member with member | member
    · have apart : ∀ mark, mark = ['-'] ∨ mark = ['t', 'o'] →
          ∀ c ∈ mark, isWordDigit c = false := by
        rintro mark (rfl | rfl) <;> decide
      exact apart mark known c member
    · exact isWordDigit_of_isBlank blank' member

/-- What a pattern for money takes is an amount, and its parts are recorded. -/
theorem exists_sum_of_records
    {slot scaleSlot : Slot}
    {before text after : Text}
    {captures : List Capture}
    (records : (money slot scaleSlot).Records before text after captures) :
    ∃ sum : Sum, text = sum.text ∧ captures = sum.captures slot scaleSlot before after ∧
      sum.sign.length ≤ 2 := by
  obtain ⟨_, letter, _, late, rfl, rfl, signed, scaled⟩ := records_append.1 records
  obtain ⟨sign, digits, rfl, isSign, numbered⟩ := (records_plain_append rfl).1 signed
  obtain ⟨isNumber, rfl⟩ := (records_capture rfl).1 numbered
  have letterForm : (letter = [] ∧ late = []) ∨ ((letter = ['k'] ∨ letter = ['m']) ∧
      late = [.around scaleSlot (digits.reverse ++ (sign.reverse ++ before)) letter after]) := by
    rcases records_opt.1 scaled with captured | none
    · obtain ⟨isScale, rfl⟩ := (records_capture rfl).1 captured
      refine .inr ⟨takes_scaleLetter.1 isScale, ?_⟩
      rw [List.reverse_append, List.append_assoc]
    · exact .inl none
  have isLetter : letter = [] ∨ letter = ['k'] ∨ letter = ['m'] := by
    rcases letterForm with ⟨none, -⟩ | ⟨some, -⟩
    · exact .inl none
    · exact .inr some
  have numberForm : IsNumber digits := @isNumber_of_takes slot _ _ _ isNumber
  obtain ⟨signForm, close⟩ := takes_currency.1 isSign
  refine ⟨⟨sign, digits, letter, signForm, numberForm, isLetter⟩, List.append_assoc _ _ _, ?_,
    close⟩
  rcases letterForm with ⟨rfl, rfl⟩ | ⟨rfl | rfl, rfl⟩ <;> rfl

end Figure

/-! ## Prices -/

namespace Budget

open Cursor Figure Pattern Text

/-- What a pattern for a word-bounded amount takes is an amount at the edge of a word. -/
theorem exists_sum_of_records
    {slot scaleSlot : Slot}
    {before text after : Text}
    {captures : List Capture}
    (records : (amount slot scaleSlot).Records before text after captures) :
    ∃ sum : Sum, text = sum.text ∧ captures = sum.captures slot scaleSlot before after ∧
      sum.sign.length ≤ 2 ∧ atBoundary ⟨text.reverse ++ before, after⟩ = true := by
  obtain ⟨_, _, rfl, records, rfl, closes⟩ := (records_append_plain rfl).1 records
  obtain ⟨sum, rfl, rfl, close⟩ := Figure.exists_sum_of_records records
  exact ⟨sum, List.append_nil _, rfl, close, by simpa using closes⟩

/-- Before white space, an amount ends at the edge of a word if it ends in a word. -/
theorem atBoundary_sum_append
    {sum : Sum}
    {gap : Text}
    (blank : gap ≠ [] ∧ isBlank gap = true)
    (before after : Text) :
    atBoundary ⟨sum.text.reverse ++ before, gap ++ after⟩ = startsWithWord sum.text.reverse := by
  have ended := startsWithWord_gap_append blank.1 blank.2 after
  rw [atBoundary_of_ended ended, startsWithWord_append (by simpa using sum.text_ne_nil)]

/-- A limit and the amount that it sets, as the parts of an occurrence. -/
structure LimitForm (side : Side) (found : Match) where
  /-- The words of the limit. -/
  words : Text
  /-- The white space after them. -/
  gap : Text
  /-- The amount. -/
  sum : Sum
  /-- The words announce a limit. -/
  announces : side.Announces words
  /-- There is white space after them. -/
  spaced : gap ≠ []
  /-- There is nothing else between them and the amount. -/
  blank : isBlank gap = true
  /-- There is at most one white space after the sign. -/
  close : sum.sign.length ≤ 2
  /-- The parts make up the occurrence. -/
  whole : found.text = words ++ (gap ++ sum.text)
  /-- The occurrence begins at the edge of a word. -/
  opens : atBoundary ⟨found.before, found.text ++ found.after⟩ = true
  /-- The occurrence ends at the edge of a word. -/
  closes : atBoundary ⟨found.text.reverse ++ found.before, found.after⟩ = true
  /-- The amount is read from the occurrence. -/
  value : found.amount? .left .leftScale = sum.value?

theorem nonempty_limitForm
    {side : Side}
    {text : Text}
    {found : Match}
    (member : found ∈ (limited side.limit).findAll text) :
    Nonempty (LimitForm side found) := by
  have plain : (boundary ++ side.limit ++ blank).isPlain = true := by cases side <;> decide
  obtain ⟨_, body, whole, ⟨_, gap, rfl, ⟨_, words, rfl, ⟨rfl, opens⟩, isLimit⟩, isGap⟩, records⟩ :=
    (records_plain_append plain).1 (records_of_mem_findAll member)
  obtain ⟨sum, rfl, captures, close, closes⟩ := exists_sum_of_records records
  obtain ⟨spaced, blank⟩ := takes_blank.1 isGap
  rw [← List.append_nil (sum.captures _ _ _ _), ← List.nil_append (_ ++ _)] at captures
  refine ⟨words, gap, sum, Side.takes_limit.1 isLimit, spaced, blank, close, ?_, ?_, ?_, ?_⟩
  · simpa using whole
  · simpa [whole] using opens
  · simpa [whole] using closes
  · exact Sum.amount?_eq_value? captures (by decide) (by simp)

/-- Two amounts and the words around them, as the parts of an occurrence. -/
structure BetweenForm (found : Match) where
  /-- The white space before the first amount. -/
  gap : Text
  /-- The first amount. -/
  first : Sum
  /-- The white space after it. -/
  gap' : Text
  /-- The white space before the second amount. -/
  gap'' : Text
  /-- The second amount. -/
  second : Sum
  /-- There is white space before the first amount. -/
  spaced : gap ≠ []
  /-- There is nothing else before the first amount. -/
  blank : isBlank gap = true
  /-- There is white space after the first amount. -/
  spaced' : gap' ≠ []
  /-- There is nothing else before "and". -/
  blank' : isBlank gap' = true
  /-- There is white space before the second amount. -/
  spaced'' : gap'' ≠ []
  /-- There is nothing else before the second amount. -/
  blank'' : isBlank gap'' = true
  /-- There is at most one white space after each sign. -/
  close : first.sign.length ≤ 2 ∧ second.sign.length ≤ 2
  /-- The parts make up the occurrence. -/
  whole : found.text = "between".toList ++
    (gap ++ (first.text ++ (gap' ++ ("and".toList ++ (gap'' ++ second.text)))))
  /-- The first amount ends in a word. -/
  ends : startsWithWord first.text.reverse = true
  /-- The occurrence begins at the edge of a word. -/
  opens : atBoundary ⟨found.before, found.text ++ found.after⟩ = true
  /-- The occurrence ends at the edge of a word. -/
  closes : atBoundary ⟨found.text.reverse ++ found.before, found.after⟩ = true
  /-- The first amount is read from the occurrence. -/
  value : found.amount? .left .leftScale = first.value?
  /-- The second amount is read from the occurrence. -/
  value' : found.amount? .right .rightScale = second.value?

theorem nonempty_betweenForm
    {text : Text}
    {found : Match}
    (member : found ∈ between.findAll text) :
    Nonempty (BetweenForm found) := by
  obtain ⟨_, body', early, late, whole, captures, records, last⟩ :=
    records_append.1 (records_of_mem_findAll member)
  obtain ⟨_, gap'', rfl, records, isGap''⟩ := (records_append_plain rfl).1 records
  obtain ⟨_, word, rfl, records, isAnd⟩ := (records_append_plain (by decide)).1 records
  obtain ⟨_, gap', rfl, records, isGap'⟩ := (records_append_plain rfl).1 records
  obtain ⟨_, body, rfl, ⟨_, gap, rfl, ⟨_, start, rfl, ⟨rfl, opens⟩, isStart⟩, isGap⟩, records⟩ :=
    (records_plain_append (by decide)).1 records
  obtain ⟨first, rfl, rfl, close, ends⟩ := exists_sum_of_records records
  obtain ⟨second, rfl, rfl, close', closes⟩ := exists_sum_of_records last
  obtain rfl := takes_literal.1 isStart
  obtain rfl := takes_literal.1 isAnd
  obtain ⟨spaced, blank⟩ := takes_blank.1 isGap
  obtain ⟨spaced', blank'⟩ := takes_blank.1 isGap'
  obtain ⟨spaced'', blank''⟩ := takes_blank.1 isGap''
  obtain ⟨value, value'⟩ := Sum.amounts?_eq_values? captures
  rw [atBoundary_sum_append ⟨spaced', blank'⟩] at ends
  refine ⟨gap, first, gap', gap'', second, spaced, blank, spaced', blank', spaced'', blank'',
    ⟨close, close'⟩, ?_, ends, ?_, ?_, value, value'⟩
  · simpa only [List.append_assoc, List.nil_append] using whole
  · simpa only [whole, List.append_assoc, List.nil_append] using opens
  · simpa only [whole, List.append_assoc, List.reverse_append, List.nil_append] using closes

/-- Two amounts and the mark between them, as the parts of an occurrence. -/
structure RangeForm (found : Match) where
  /-- The first amount. -/
  first : Sum
  /-- The white space after it. -/
  gap : Text
  /-- The mark. -/
  mark : Text
  /-- The white space before the second amount. -/
  gap' : Text
  /-- The second amount. -/
  second : Sum
  /-- There is only white space before the mark. -/
  blank : isBlank gap = true
  /-- The mark is one of two. -/
  known : mark = ['-'] ∨ mark = ['t', 'o']
  /-- There is only white space after the mark. -/
  blank' : isBlank gap' = true
  /-- There is at most one white space after each sign. -/
  close : first.sign.length ≤ 2 ∧ second.sign.length ≤ 2
  /-- The parts make up the occurrence. -/
  whole : found.text = first.text ++ (gap ++ (mark ++ (gap' ++ second.text)))
  /-- The first amount ends at the edge of a word. -/
  ends : atBoundary ⟨first.text.reverse, gap ++ (mark ++ gap')⟩ = true
  /-- The occurrence ends at the edge of a word. -/
  closes : atBoundary ⟨found.text.reverse ++ found.before, found.after⟩ = true
  /-- The first amount is read from the occurrence. -/
  value : found.amount? .left .leftScale = first.value?
  /-- The second amount is read from the occurrence. -/
  value' : found.amount? .right .rightScale = second.value?

theorem nonempty_rangeForm
    {text : Text}
    {found : Match}
    (member : found ∈ bareRange.findAll text) :
    Nonempty (RangeForm found) := by
  obtain ⟨_, body', early, late, whole, captures, records, last⟩ :=
    records_append.1 (records_of_mem_findAll member)
  obtain ⟨_, _, rfl, records, _, gap', rfl, ⟨gap, mark, rfl, isGap, isMark⟩, isGap'⟩ :=
    (records_append_plain (by decide)).1 records
  obtain ⟨first, rfl, rfl, close, ends⟩ := exists_sum_of_records records
  obtain ⟨second, rfl, rfl, close', closes⟩ := exists_sum_of_records last
  obtain ⟨value, value'⟩ := Sum.amounts?_eq_values? captures
  have known := eq_of_takes_mark isMark
  rw [atBoundary_append (by simpa using first.text_ne_nil)
    (by rcases known with rfl | rfl <;> simp), List.append_assoc] at ends
  refine ⟨first, gap, mark, gap', second, takes_gap.1 isGap, known, takes_gap.1 isGap',
    ⟨close, close'⟩, ?_, ends, ?_, value, value'⟩
  · simpa only [List.append_assoc] using whole
  · simpa only [whole, List.reverse_append, List.append_assoc] using closes

end Budget

/-! ## Distances -/

namespace Mileage

open Cursor Figure Pattern Text

/-- A number of thousands and the words that make it a limit, as the parts of an occurrence. -/
structure OrBelowForm (found : Match) where
  /-- The number of thousands. -/
  digits : Text
  /-- What stands after the scale letter. -/
  rest : Text
  /-- The number has the form of one. -/
  isNumber : IsNumber digits
  /-- No word goes on after the scale letter. -/
  stops : startsWithWord rest = false
  /-- There are words after the scale letter. -/
  nonempty : rest ≠ []
  /-- The parts make up the occurrence. -/
  whole : found.text = digits ++ 'k' :: rest
  /-- The number is read from the occurrence. -/
  value : found.thousands? .left = Amount.read? digits (some ['k'])

theorem nonempty_orBelowForm
    {text : Text}
    {found : Match}
    (member : found ∈ orBelow.findAll text) :
    Nonempty (OrBelowForm found) := by
  obtain ⟨-, records, -⟩ := records_bounded.1 (records_of_mem_findAll member)
  obtain ⟨_, rest, whole, records, -⟩ := (records_append_plain (by decide)).1 records
  obtain ⟨_, word, rfl, records, -⟩ := (records_append_plain (by decide)).1 records
  obtain ⟨_, more, rfl, records, -⟩ := (records_append_plain (by decide)).1 records
  obtain ⟨_, gap, rfl, records, isGap⟩ := (records_append_plain rfl).1 records
  obtain ⟨digits, scale, rfl, records, isScale⟩ := (records_append_plain rfl).1 records
  obtain ⟨isNumber, captures⟩ := (records_capture rfl).1 records
  obtain ⟨spaced, blank⟩ := takes_blank.1 isGap
  obtain rfl := takes_only.1 isScale
  refine ⟨digits, gap ++ (more ++ (word ++ rest)), @isNumber_of_takes .left _ _ _ isNumber,
    startsWithWord_gap_append spaced blank _, by simp [spaced], ?_, ?_⟩
  · simpa using whole
  · simp [Match.thousands?, Match.slot?, captures]

/-- A limit and the number of thousands that it sets, as the parts of an occurrence. -/
structure ThousandsForm (side : Side) (found : Match) where
  /-- The words of the limit. -/
  words : Text
  /-- The white space after them. -/
  gap : Text
  /-- The number of thousands. -/
  digits : Text
  /-- The words announce a limit. -/
  announces : side.Announces words
  /-- There is white space after them. -/
  spaced : gap ≠ []
  /-- There is nothing else between them and the number. -/
  blank : isBlank gap = true
  /-- The number has the form of one. -/
  isNumber : IsNumber digits
  /-- The parts make up the occurrence. -/
  whole : found.text = words ++ (gap ++ (digits ++ ['k']))
  /-- The occurrence ends at the edge of a word. -/
  closes : atBoundary ⟨found.text.reverse ++ found.before, found.after⟩ = true
  /-- The number is read from the occurrence. -/
  value : found.thousands? .left = Amount.read? digits (some ['k'])

theorem nonempty_thousandsForm
    {side : Side}
    {text : Text}
    {found : Match}
    (member : found ∈ (limitInThousands side.limit).findAll text) :
    Nonempty (ThousandsForm side found) := by
  have plain : (side.limit ++ blank).isPlain = true := by cases side <;> decide
  obtain ⟨-, records, closes⟩ := records_bounded.1 (records_of_mem_findAll member)
  obtain ⟨_, scale, whole, records, isScale⟩ := (records_append_plain rfl).1 records
  obtain ⟨_, digits, rfl, ⟨words, gap, rfl, isLimit, isGap⟩, records⟩ :=
    (records_plain_append plain).1 records
  obtain ⟨isNumber, captures⟩ := (records_capture rfl).1 records
  obtain ⟨spaced, blank⟩ := takes_blank.1 isGap
  obtain rfl := takes_only.1 isScale
  refine ⟨words, gap, digits, Side.takes_limit.1 isLimit, spaced, blank,
    @isNumber_of_takes .left _ _ _ isNumber, by simpa using whole, closes, ?_⟩
  simp [Match.thousands?, Match.slot?, captures]

/-- A limit and the distance with a unit that it sets, as the parts of an occurrence. -/
structure UnitForm (side : Side) (found : Match) where
  /-- The words of the limit. -/
  words : Text
  /-- The white space after them. -/
  gap : Text
  /-- The number. -/
  digits : Text
  /-- The white space after it. -/
  gap' : Text
  /-- The scale letter. -/
  letter : Text
  /-- The white space after it. -/
  gap'' : Text
  /-- The unit. -/
  unit : String
  /-- The words announce a limit. -/
  announces : side.Announces words
  /-- There is white space after them. -/
  spaced : gap ≠ []
  /-- There is nothing else between them and the number. -/
  blank : isBlank gap = true
  /-- The number has the form of one. -/
  isNumber : IsNumber digits
  /-- There is only white space after the number. -/
  blank' : isBlank gap' = true
  /-- The letter is that of thousands, unless it is missing. -/
  isLetter : letter = [] ∨ letter = ['k']
  /-- Without a letter, the white space counts as that before the unit. -/
  close : letter = [] → gap' = []
  /-- There is only white space before the unit. -/
  blank'' : isBlank gap'' = true
  /-- The unit is one of distance. -/
  known : unit ∈ distanceWords
  /-- The parts make up the occurrence. -/
  whole : found.text =
    words ++ (gap ++ (digits ++ (gap' ++ (letter ++ (gap'' ++ unit.toList)))))
  /-- The occurrence ends at the edge of a word. -/
  closes : atBoundary ⟨found.text.reverse ++ found.before, found.after⟩ = true
  /-- The distance is read from the occurrence. -/
  value : found.amount? .left .leftScale =
    Amount.read? digits (if letter.isEmpty then none else some letter)

theorem nonempty_unitForm
    {side : Side}
    {text : Text}
    {found : Match}
    (member : found ∈ (limitWithUnit side.limit).findAll text) :
    Nonempty (UnitForm side found) := by
  have plain : (side.limit ++ blank).isPlain = true := by cases side <;> decide
  obtain ⟨-, records, closes⟩ := records_bounded.1 (records_of_mem_findAll member)
  obtain ⟨_, _, whole, records, isUnit⟩ := (records_append_plain (by decide)).1 records
  obtain ⟨_, gap'', rfl, records, isGap''⟩ := (records_append_plain rfl).1 records
  obtain ⟨_, letter, early, late, rfl, captures, records, scaled⟩ := records_append.1 records
  obtain ⟨_, gap', rfl, records, isGap'⟩ := (records_append_plain rfl).1 records
  obtain ⟨_, digits, rfl, ⟨words, gap, rfl, isLimit, isGap⟩, records⟩ :=
    (records_plain_append plain).1 records
  obtain ⟨isNumber, rfl⟩ := (records_capture rfl).1 records
  obtain ⟨unit, known, rfl⟩ := takes_oneOf.1 isUnit
  have numberForm : IsNumber digits := @isNumber_of_takes .left _ _ _ isNumber
  have blank' := takes_gap.1 isGap'
  have blank'' := takes_gap.1 isGap''
  obtain ⟨spaced, blank⟩ := takes_blank.1 isGap
  rcases records_opt.1 scaled with captured | ⟨rfl, rfl⟩
  · obtain ⟨isScale, rfl⟩ := (records_capture rfl).1 captured
    obtain rfl := takes_only.1 isScale
    refine ⟨words, gap, digits, gap', ['k'], gap'', unit, Side.takes_limit.1 isLimit, spaced, blank,
      numberForm, blank', .inr rfl, nofun, blank'', known, ?_, closes, ?_⟩
    · simpa only [List.append_assoc] using whole
    · simp [Match.amount?, Match.slot?, captures]
  · -- Without a letter, all of the white space is put before the unit.
    have blank : isBlank (gap' ++ gap'') = true := by
      rw [isBlank, List.all_append, Bool.and_eq_true]
      exact ⟨blank', blank''⟩
    refine ⟨words, gap, digits, [], [], gap' ++ gap'', unit, Side.takes_limit.1 isLimit, spaced,
      (takes_blank.1 isGap).2, numberForm, rfl, .inl rfl, fun _ => rfl, blank, known, ?_, closes,
      ?_⟩
    · simpa only [List.append_assoc, List.nil_append] using whole
    · simp [Match.amount?, Match.slot?, captures]

end Mileage
end SearchPhrase
