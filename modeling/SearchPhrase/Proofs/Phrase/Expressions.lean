import Mathlib.Data.List.Induction
import SearchPhrase.Phrase.Keywords
import SearchPhrase.Proofs.Phrase.Amounts

/-!
# Price expressions

Prices are read by patterns of their own, and other patterns take price expressions out of the
keywords.  Both kinds take limits, amounts between two others, and ranges, which are told apart only
by what stands at their ends, by the edges of words, and by the signs and letters of the amounts.
-/

namespace SearchPhrase

/-- Commas at the end of a number have no part in what it is read as. -/
theorem Amount.read?_append_commas
    {number commas : Text}
    {suffix : Option Text}
    (all : ∀ c ∈ commas, c = ',') :
    read? (number ++ commas) suffix = read? number suffix := by
  have none : commas.filter (· ≠ ',') = [] := by simpa using all
  rw [read?, read?, List.filter_append, none, List.append_nil]

namespace Figure

open Cursor Pattern Text Unicode

/-- What marks a range, with the white space around it. -/
theorem takes_rangeMark
    {before text after : Text} :
    rangeMark.Takes before text after ↔ ∃ gap mark gap' : Text, text = gap ++ (mark ++ gap') ∧
      isBlank gap = true ∧ (mark = ['-'] ∨ mark = ['t', 'o']) ∧ isBlank gap' = true := by
  constructor
  · rintro ⟨_, gap', rfl, ⟨gap, mark, rfl, isGap, isMark⟩, isGap'⟩
    exact ⟨gap, mark, gap', List.append_assoc _ _ _, takes_gap.1 isGap, eq_of_takes_mark isMark,
      takes_gap.1 isGap'⟩
  · rintro ⟨gap, mark, gap', rfl, blank, known, blank'⟩
    refine ⟨gap ++ mark, gap', (List.append_assoc _ _ _).symm, ⟨gap, mark, rfl, takes_gap.2 blank,
      ?_⟩, takes_gap.2 blank'⟩
    rcases known with rfl | rfl
    · exact takes_oneOf.2 ⟨"-", by decide, rfl⟩
    · exact takes_oneOf.2 ⟨"to", by decide, rfl⟩

theorem IsNumber.exists_core
    {digits : Text}
    (isNumber : IsNumber digits) :
    ∃ core commas : Text, digits = core ++ commas ∧ IsNumber core ∧ (∀ c ∈ commas, c = ',') ∧
      startsWithWord core.reverse = true := by
  obtain ⟨first, whole, fraction, rfl, digit, rest, point⟩ := isNumber
  have inWord := isWord_of_isWordDigit digit
  rcases point with rfl | ⟨others, rfl, nonempty, all⟩
  · -- The commas are dropped one after another, from the end of the digits on.
    induction whole using List.reverseRecOn with
    | nil => exact ⟨[first], [], rfl, ⟨first, [], [], rfl, digit, rest, .inl rfl⟩, by simp, inWord⟩
    | append_singleton whole c ih =>
        rcases rest c (by simp) with last | rfl
        · refine ⟨first :: (whole ++ [c]), [], by simp,
            ⟨first, whole ++ [c], [], by simp, digit, rest, .inl rfl⟩, by simp, ?_⟩
          simpa [startsWithWord] using isWord_of_isWordDigit last
        · obtain ⟨core, commas, same, isNumber, all, ends⟩ :=
            ih fun d member => rest d (by simp [member])
          refine ⟨core, commas ++ [','], ?_, isNumber, ?_, ends⟩
          · rw [← List.append_assoc, ← same]
            simp
          · intro d member
            rcases List.mem_append.1 member with member | member
            · exact all d member
            · exact List.mem_singleton.1 member
  · obtain ⟨front, last, rfl⟩ := (List.eq_nil_or_concat others).resolve_left nonempty
    refine ⟨_, [], (List.append_nil _).symm, ⟨first, whole, _, rfl, digit, rest,
      .inr ⟨_, rfl, nonempty, all⟩⟩, by simp, ?_⟩
    simpa [startsWithWord] using isWord_of_isWordDigit (all last (by simp))

namespace Sum

/-- An amount ends in a word, but for commas at the end of its number. -/
theorem exists_core (sum : Sum) :
    ∃ (core : Sum) (commas : Text), sum.text = core.text ++ commas ∧ core.sign = sum.sign ∧
      core.letter = sum.letter ∧ sum.digits = core.digits ++ commas ∧ (∀ c ∈ commas, c = ',') ∧
        startsWithWord core.text.reverse = true := by
  by_cases plain : sum.letter = []
  · obtain ⟨digits, commas, same, isNumber, all, ends⟩ := sum.isNumber.exists_core
    refine ⟨⟨sum.sign, digits, sum.letter, sum.isSign, isNumber, sum.isLetter⟩, commas, ?_, rfl,
      rfl, same, all, ?_⟩
    · simp [text, plain, same]
    · simpa [text, plain, startsWithWord_append isNumber.ne_nil] using
        (startsWithWord_append (by simpa using isNumber.ne_nil) sum.sign.reverse).trans ends
  · refine ⟨sum, [], (List.append_nil _).symm, rfl, rfl, (List.append_nil _).symm, by simp, ?_⟩
    rcases sum.isLetter.resolve_left plain with letter | letter <;> simp [text, letter] <;> rfl

/-- Commas have no part in what an amount is worth. -/
theorem value?_eq_of_core
    {sum core : Sum}
    {commas : Text}
    (letter : core.letter = sum.letter)
    (same : sum.digits = core.digits ++ commas)
    (all : ∀ c ∈ commas, c = ',') :
    sum.value? = core.value? := by
  rw [value?, value?, suffix?, suffix?, letter, same, Amount.read?_append_commas all]

end Sum

/-- A limit and the amount that it sets. -/
structure LimitText (side : Side) where
  /-- The words of the limit. -/
  words : Text
  /-- The white space after them. -/
  gap : Text
  /-- The amount. -/
  sum : Sum
  /-- The words announce a limit. -/
  announces : side.Announces words
  /-- There is white space after them. -/
  spaced : gap ≠ []
  /-- There is nothing else between them and the amount. -/
  blank : isBlank gap = true
  /-- There is at most one white space after the sign. -/
  close : sum.sign.length ≤ 2

/-- The text of a limit. -/
def LimitText.text {side : Side} (limit : LimitText side) : Text :=
  limit.words ++ (limit.gap ++ limit.sum.text)

/-- An amount between two others. -/
structure BetweenText where
  /-- The white space before the first amount. -/
  gap : Text
  /-- The first amount. -/
  first : Sum
  /-- The white space after it. -/
  gap' : Text
  /-- The white space before the second amount. -/
  gap'' : Text
  /-- The second amount. -/
  second : Sum
  /-- There is white space before the first amount, and nothing else. -/
  blank : gap ≠ [] ∧ isBlank gap = true
  /-- There is white space after the first amount, and nothing else. -/
  blank' : gap' ≠ [] ∧ isBlank gap' = true
  /-- There is white space before the second amount, and nothing else. -/
  blank'' : gap'' ≠ [] ∧ isBlank gap'' = true
  /-- There is at most one white space after each sign. -/
  close : first.sign.length ≤ 2 ∧ second.sign.length ≤ 2

/-- The text up to the second amount. -/
def BetweenText.opening (range : BetweenText) : Text :=
  "between".toList ++ (range.gap ++ (range.first.text ++ (range.gap' ++
    ("and".toList ++ range.gap''))))

/-- The text of an amount between two others. -/
def BetweenText.text (range : BetweenText) : Text :=
  range.opening ++ range.second.text

/-- Two amounts that make a range. -/
structure RangeText where
  /-- The first amount. -/
  first : Sum
  /-- The white space after it. -/
  gap : Text
  /-- The mark. -/
  mark : Text
  /-- The white space before the second amount. -/
  gap' : Text
  /-- The second amount. -/
  second : Sum
  /-- There is only white space before the mark. -/
  blank : isBlank gap = true
  /-- The mark is one of two. -/
  known : mark = ['-'] ∨ mark = ['t', 'o']
  /-- There is only white space after the mark. -/
  blank' : isBlank gap' = true
  /-- There is at most one white space after each sign. -/
  close : first.sign.length ≤ 2 ∧ second.sign.length ≤ 2

/-- The mark of a range with the white space around it. -/
def RangeText.middle (range : RangeText) : Text :=
  range.gap ++ (range.mark ++ range.gap')

/-- The text of a range. -/
def RangeText.text (range : RangeText) : Text :=
  range.first.text ++ (range.middle ++ range.second.text)

/-- Whether both amounts of a range are plain numbers. -/
structure RangeText.IsPlain (range : RangeText) : Prop where
  /-- The first has no sign. -/
  sign : range.first.sign = []
  /-- The first has no letter. -/
  letter : range.first.letter = []
  /-- The second has no sign. -/
  sign' : range.second.sign = []
  /-- The second has no letter. -/
  letter' : range.second.letter = []

/-- Nothing, or a unit of distance after white space. -/
def IsDistanceTail (text : Text) : Prop :=
  text = [] ∨ ∃ (gap : Text) (unit : String), text = gap ++ unit.toList ∧ isBlank gap = true ∧
    unit ∈ distanceWords

theorem takes_distanceTail
    {before text after : Text} :
    (opt (gap ++ distanceUnit)).Takes before text after ↔ IsDistanceTail text := by
  constructor
  · intro takes
    rcases takes_opt.1 takes with ⟨gap, _, rfl, isGap, isUnit⟩ | rfl
    · obtain ⟨unit, known, rfl⟩ := takes_oneOf.1 isUnit
      exact .inr ⟨gap, unit, rfl, takes_gap.1 isGap, known⟩
    · exact .inl rfl
  · rintro (rfl | ⟨gap, unit, rfl, blank, known⟩)
    · exact takes_opt.2 (.inr rfl)
    · exact takes_opt.2 (.inl ⟨gap, unit.toList, rfl, takes_gap.2 blank,
        takes_oneOf.2 ⟨unit, known, rfl⟩⟩)

theorem RangeText.middle_ne_nil (range : RangeText) : range.middle ≠ [] := by
  rcases range.known with mark | mark <;> simp [middle, mark]

end Figure

namespace Budget

open Cursor Figure Pattern Text

section Takes

variable {before text after : Text}

theorem takes_amount
    {slot scaleSlot : Slot} :
    (amount slot scaleSlot).Takes before text after ↔
      ∃ sum : Sum, text = sum.text ∧ sum.sign.length ≤ 2 ∧
        atBoundary ⟨text.reverse ++ before, after⟩ = true := by
  constructor
  · rintro ⟨_, _, rfl, isMoney, rfl, closes⟩
    obtain ⟨sum, rfl, short⟩ := takes_money.1 isMoney
    exact ⟨sum, List.append_nil _, short, by simpa using closes⟩
  · rintro ⟨sum, rfl, short, closes⟩
    refine ⟨sum.text, [], (List.append_nil _).symm, takes_money.2 ⟨sum, rfl, short⟩, rfl, ?_⟩
    simpa using closes

/-- The limits that prices are read from stand between edges of words. -/
theorem takes_limited
    {side : Side} :
    (limited side.limit).Takes before text after ↔
      ∃ limit : LimitText side, text = limit.text ∧ atBoundary ⟨before, text ++ after⟩ = true ∧
        atBoundary ⟨text.reverse ++ before, after⟩ = true := by
  constructor
  · rintro ⟨_, _, rfl, ⟨_, gap, rfl, ⟨_, words, rfl, ⟨rfl, opens⟩, isLimit⟩, isGap⟩, isAmount⟩
    obtain ⟨sum, rfl, short, closes⟩ := takes_amount.1 isAmount
    obtain ⟨spaced, blank⟩ := takes_blank.1 isGap
    refine ⟨⟨words, gap, sum, Side.takes_limit.1 isLimit, spaced, blank, short⟩, ?_, ?_, ?_⟩
    · simp [LimitText.text]
    · simpa using opens
    · simpa using closes
  · rintro ⟨limit, rfl, opens, closes⟩
    refine ⟨limit.words ++ limit.gap, limit.sum.text, by simp [LimitText.text],
      ⟨limit.words, limit.gap, rfl, ⟨[], limit.words, rfl, ⟨rfl, ?_⟩,
        Side.takes_limit.2 limit.announces⟩, takes_blank.2 ⟨limit.spaced, limit.blank⟩⟩,
      takes_amount.2 ⟨limit.sum, rfl, limit.close, ?_⟩⟩
    · simpa [LimitText.text] using opens
    · simpa [LimitText.text] using closes

/-- Of an amount between two others, the first ends in a word. -/
theorem takes_between :
    between.Takes before text after ↔
      ∃ range : BetweenText, text = range.text ∧ startsWithWord range.first.text.reverse = true ∧
        atBoundary ⟨before, text ++ after⟩ = true ∧
        atBoundary ⟨text.reverse ++ before, after⟩ = true := by
  constructor
  · rintro ⟨_, _, rfl, ⟨_, gap'', rfl, ⟨_, word, rfl, ⟨_, gap', rfl, ⟨_, _, rfl, ⟨_, gap, rfl,
      ⟨_, start, rfl, ⟨rfl, opens⟩, isStart⟩, isGap⟩, isFirst⟩, isGap'⟩, isWord⟩, isGap''⟩, isLast⟩
    obtain ⟨first, rfl, short, ends⟩ := takes_amount.1 isFirst
    obtain ⟨second, rfl, short', closes⟩ := takes_amount.1 isLast
    have blank' := takes_blank.1 isGap'
    rw [atBoundary_sum_append blank'] at ends
    refine ⟨⟨gap, first, gap', gap'', second, takes_blank.1 isGap, blank', takes_blank.1 isGap'',
      short, short'⟩, ?_, ends, ?_, ?_⟩
    · unfold BetweenText.text BetweenText.opening
      obtain rfl := takes_literal.1 isStart
      obtain rfl := takes_literal.1 isWord
      simp only [List.append_assoc, List.nil_append]
    · simpa only [List.append_assoc, List.nil_append] using opens
    · simpa only [List.append_assoc, List.reverse_append, List.nil_append] using closes
  · rintro ⟨range, rfl, ends, opens, closes⟩
    have isLast : (amount .right .rightScale).Takes (range.opening.reverse ++ before)
        range.second.text after := by
      refine takes_amount.2 ⟨range.second, rfl, range.close.2, ?_⟩
      simpa only [BetweenText.text, List.reverse_append, List.append_assoc] using closes
    have isFirst : ∀ before rest, (amount .left .leftScale).Takes before range.first.text
        (range.gap' ++ rest) := by
      intro before rest
      refine takes_amount.2 ⟨range.first, rfl, range.close.1, ?_⟩
      rwa [atBoundary_sum_append range.blank']
    unfold BetweenText.text BetweenText.opening at opens ⊢
    simp only [List.append_assoc] at opens
    refine ⟨_, _, rfl, ⟨_, range.gap'', ?_, ⟨_, "and".toList, rfl, ⟨_, range.gap', rfl,
      ⟨_, range.first.text, rfl, ⟨"between".toList, range.gap, rfl, ⟨[], _, rfl, ⟨rfl, opens⟩,
        takes_literal.2 rfl⟩, takes_blank.2 range.blank⟩, isFirst _ _⟩, takes_blank.2 range.blank'⟩,
      takes_literal.2 rfl⟩, takes_blank.2 range.blank''⟩, isLast⟩
    simp only [List.append_assoc]

/-- The first amount of a range ends at the edge of a word. -/
theorem takes_bareRange :
    bareRange.Takes before text after ↔
      ∃ range : RangeText, text = range.text ∧
        atBoundary ⟨range.first.text.reverse, range.middle⟩ = true ∧
        atBoundary ⟨text.reverse ++ before, after⟩ = true := by
  constructor
  · rintro ⟨_, _, rfl, ⟨_, middle, rfl, isFirst, isMark⟩, isLast⟩
    obtain ⟨first, rfl, short, ends⟩ := takes_amount.1 isFirst
    obtain ⟨second, rfl, short', closes⟩ := takes_amount.1 isLast
    obtain ⟨gap, mark, gap', rfl, blank, known, blank'⟩ := takes_rangeMark.1 isMark
    refine ⟨⟨first, gap, mark, gap', second, blank, known, blank', short, short'⟩, ?_, ?_, ?_⟩
    · simp only [RangeText.text, RangeText.middle, List.append_assoc]
    · rwa [atBoundary_append (by simpa using first.text_ne_nil)
        (by rcases known with rfl | rfl <;> simp)] at ends
    · simpa only [List.reverse_append, List.append_assoc] using closes
  · rintro ⟨range, rfl, ends, closes⟩
    refine ⟨range.first.text ++ range.middle, range.second.text, by simp [RangeText.text],
      ⟨range.first.text, range.middle, rfl, takes_amount.2 ⟨range.first, rfl, range.close.1, ?_⟩,
        takes_rangeMark.2 ⟨range.gap, range.mark, range.gap', rfl, range.blank, range.known,
          range.blank'⟩⟩, takes_amount.2 ⟨range.second, rfl, range.close.2, ?_⟩⟩
    · rwa [atBoundary_append (by simpa using range.first.text_ne_nil) range.middle_ne_nil]
    · simpa [RangeText.text] using closes

/-- A bare range, the amounts that are read from it, and the edge of a word at its end. -/
theorem exists_rangeText_of_mem
    {found : Match}
    (member : found ∈ bareRange.findAll text) :
    ∃ range : RangeText, found.text = range.text ∧
      atBoundary ⟨found.text.reverse ++ found.before, found.after⟩ = true ∧
      found.amount? .left .leftScale = range.first.value? ∧
      found.amount? .right .rightScale = range.second.value? := by
  obtain ⟨form⟩ := nonempty_rangeForm member
  refine ⟨⟨form.first, form.gap, form.mark, form.gap', form.second, form.blank, form.known,
    form.blank', form.close⟩, ?_, form.closes, form.value, form.value'⟩
  simp only [form.whole, RangeText.text, RangeText.middle, List.append_assoc]

end Takes

end Budget

/-! ## What is taken out of the keywords -/

namespace Keywords

open Cursor Figure Pattern Text

section Takes

variable {before text after : Text}

theorem takes_keywordMoney
    {slot : Slot} :
    (keywordMoney slot).Takes before text after ↔
      ∃ sum : Sum, text = sum.text ∧ sum.sign.length ≤ 2 :=
  @takes_money before text after slot slot

/-- A limit of either kind and its amount, as they stand in the keywords. -/
def limitedMoney : Pattern :=
  alt atMost atLeast ++ Pattern.blank ++ keywordMoney .left

theorem takes_limitedMoney :
    limitedMoney.Takes before text after ↔
      ∃ (side : Side) (limit : LimitText side), text = limit.text := by
  constructor
  · rintro ⟨_, _, rfl, ⟨words, gap, rfl, isLimit, isGap⟩, isMoney⟩
    obtain ⟨sum, rfl, short⟩ := takes_keywordMoney.1 isMoney
    obtain ⟨spaced, blank⟩ := takes_blank.1 isGap
    obtain ⟨side, announces⟩ : ∃ side : Side, side.Announces words := by
      rcases isLimit with atMost | atLeast
      · exact ⟨.upper, Side.takes_limit.1 atMost⟩
      · exact ⟨.lower, Side.takes_limit.1 atLeast⟩
    exact ⟨side, ⟨words, gap, sum, announces, spaced, blank, short⟩, List.append_assoc _ _ _⟩
  · rintro ⟨side, limit, rfl⟩
    refine ⟨limit.words ++ limit.gap, limit.sum.text, (List.append_assoc _ _ _).symm,
      ⟨limit.words, limit.gap, rfl, ?_, takes_blank.2 ⟨limit.spaced, limit.blank⟩⟩,
      takes_keywordMoney.2 ⟨limit.sum, rfl, limit.close⟩⟩
    cases side with
    | upper => exact .inl (Side.takes_limit.2 limit.announces)
    | lower => exact .inr (Side.takes_limit.2 limit.announces)

theorem takes_limitExpression :
    limitExpression.Takes before text after ↔
      ∃ (side : Side) (limit : LimitText side) (tail : Text), text = limit.text ++ tail ∧
        IsDistanceTail tail ∧ atBoundary ⟨before, text ++ after⟩ = true ∧
        atBoundary ⟨text.reverse ++ before, after⟩ = true := by
  constructor
  · intro takes
    obtain ⟨opens, ⟨_, tail, rfl, isLimited, isTail⟩, closes⟩ := takes_bounded.1 takes
    obtain ⟨side, limit, rfl⟩ := takes_limitedMoney.1 isLimited
    exact ⟨side, limit, tail, rfl, takes_distanceTail.1 isTail, opens, closes⟩
  · rintro ⟨side, limit, tail, rfl, isTail, opens, closes⟩
    exact takes_bounded.2 ⟨opens, ⟨limit.text, tail, rfl, takes_limitedMoney.2 ⟨side, limit, rfl⟩,
      takes_distanceTail.2 isTail⟩, closes⟩

theorem takes_betweenExpression :
    betweenExpression.Takes before text after ↔
      ∃ range : BetweenText, text = range.text ∧ atBoundary ⟨before, text ++ after⟩ = true ∧
        atBoundary ⟨text.reverse ++ before, after⟩ = true := by
  constructor
  · intro takes
    obtain ⟨opens, ⟨_, _, rfl, ⟨_, gap'', rfl, ⟨_, word, rfl, ⟨_, gap', rfl, ⟨_, _, rfl,
      ⟨start, gap, rfl, isStart, isGap⟩, isFirst⟩, isGap'⟩, isWord⟩, isGap''⟩, isLast⟩, closes⟩ :=
      takes_bounded.1 takes
    obtain ⟨first, rfl, short⟩ := takes_keywordMoney.1 isFirst
    obtain ⟨second, rfl, short'⟩ := takes_keywordMoney.1 isLast
    refine ⟨⟨gap, first, gap', gap'', second, takes_blank.1 isGap, takes_blank.1 isGap',
      takes_blank.1 isGap'', short, short'⟩, ?_, opens, closes⟩
    unfold BetweenText.text BetweenText.opening
    obtain rfl := takes_literal.1 isStart
    obtain rfl := takes_literal.1 isWord
    simp only [List.append_assoc]
  · rintro ⟨range, rfl, opens, closes⟩
    refine takes_bounded.2 ⟨opens, ?_, closes⟩
    refine ⟨range.opening, range.second.text, rfl, ⟨_, range.gap'', ?_, ⟨_, "and".toList, rfl,
      ⟨_, range.gap', rfl, ⟨_, range.first.text, rfl, ⟨"between".toList, range.gap, rfl,
        takes_literal.2 rfl, takes_blank.2 range.blank⟩,
          takes_keywordMoney.2 ⟨range.first, rfl, range.close.1⟩⟩, takes_blank.2 range.blank'⟩,
        takes_literal.2 rfl⟩, takes_blank.2 range.blank''⟩,
      takes_keywordMoney.2 ⟨range.second, rfl, range.close.2⟩⟩
    unfold BetweenText.opening
    simp only [List.append_assoc]

/-- A range that begins with a dollar sign has its first number right after it. -/
theorem takes_currencyRange :
    currencyRange.Takes before text after ↔
      ∃ range : RangeText, text = range.text ∧ range.first.sign = ['$'] ∧
        atBoundary ⟨text.reverse ++ before, after⟩ = true := by
  constructor
  · rintro ⟨_, _, rfl, ⟨_, _, rfl, ⟨_, middle, rfl, ⟨_, letter, rfl, ⟨sign, digits, rfl, isSign,
      isNumber⟩, isLetter⟩, isMark⟩, isMoney⟩, rfl, closes⟩
    obtain rfl := takes_only.1 isSign
    obtain ⟨second, rfl, short⟩ := takes_keywordMoney.1 isMoney
    obtain ⟨gap, mark, gap', rfl, blank, known, blank'⟩ := takes_rangeMark.1 isMark
    refine ⟨⟨⟨['$'], digits, letter, .inr ⟨[], rfl, rfl⟩, isNumber_of_takes isNumber,
      takes_opt_scaleLetter.1 isLetter⟩, gap, mark, gap', second, blank, known, blank',
      by simp, short⟩, ?_, rfl, ?_⟩
    · simp [RangeText.text, RangeText.middle, Sum.text]
    · simpa using closes
  · rintro ⟨range, rfl, sign, closes⟩
    refine ⟨range.text, [], (List.append_nil _).symm,
      ⟨range.first.text ++ range.middle, range.second.text, by simp [RangeText.text],
        ⟨range.first.text, range.middle, rfl, ⟨['$'] ++ range.first.digits, range.first.letter, ?_,
          ⟨['$'], range.first.digits, rfl, takes_only.2 rfl, takes_number.2 range.first.isNumber⟩,
          takes_opt_scaleLetter.2 range.first.isLetter⟩,
        takes_rangeMark.2 ⟨range.gap, range.mark, range.gap', rfl, range.blank, range.known,
          range.blank'⟩⟩, takes_keywordMoney.2 ⟨range.second, rfl, range.close.2⟩⟩, rfl,
      by simpa using closes⟩
    rw [Sum.text, sign, List.append_assoc]

theorem takes_scaledRange :
    scaledRange.Takes before text after ↔
      ∃ range : RangeText, text = range.text ∧ range.first.sign = [] ∧ range.first.letter ≠ [] ∧
        atBoundary ⟨before, text ++ after⟩ = true ∧
        atBoundary ⟨text.reverse ++ before, after⟩ = true := by
  constructor
  · intro takes
    obtain ⟨opens, ⟨_, _, rfl, ⟨_, middle, rfl, ⟨digits, letter, rfl, isNumber, isLetter⟩, isMark⟩,
      isMoney⟩, closes⟩ := takes_bounded.1 takes
    obtain ⟨second, rfl, short⟩ := takes_keywordMoney.1 isMoney
    obtain ⟨gap, mark, gap', rfl, blank, known, blank'⟩ := takes_rangeMark.1 isMark
    have isLetter := takes_scaleLetter.1 isLetter
    refine ⟨⟨⟨[], digits, letter, .inl rfl, isNumber_of_takes isNumber, .inr isLetter⟩, gap, mark,
      gap', second, blank, known, blank', by simp, short⟩, ?_, rfl, ?_, opens, closes⟩
    · simp [RangeText.text, RangeText.middle, Sum.text]
    · rcases isLetter with rfl | rfl <;> simp
  · rintro ⟨range, rfl, sign, letter, opens, closes⟩
    refine takes_bounded.2 ⟨opens, ⟨range.first.text ++ range.middle, range.second.text,
      by simp [RangeText.text], ⟨range.first.text, range.middle, rfl,
        ⟨range.first.digits, range.first.letter, by simp [Sum.text, sign],
          takes_number.2 range.first.isNumber,
          takes_scaleLetter.2 (range.first.isLetter.resolve_left letter)⟩,
        takes_rangeMark.2 ⟨range.gap, range.mark, range.gap', rfl, range.blank, range.known,
          range.blank'⟩⟩, takes_keywordMoney.2 ⟨range.second, rfl, range.close.2⟩⟩, closes⟩

/-- Two plain numbers that make a range, in folded case. -/
def plainForm : Pattern :=
  bounded (number .left ++ rangeMark ++ number .right) ++
    opt (capture .unit (gap ++ distanceUnit ++ boundary))

/-- A range of two plain numbers stands between edges of words, and so does the unit of distance
that may come after it. -/
theorem takes_plainForm :
    plainForm.Takes before text after ↔
      ∃ (range : RangeText) (tail : Text), text = range.text ++ tail ∧ range.IsPlain ∧
        atBoundary ⟨before, text ++ after⟩ = true ∧
        atBoundary ⟨range.text.reverse ++ before, tail ++ after⟩ = true ∧ IsDistanceTail tail ∧
        (tail ≠ [] → atBoundary ⟨text.reverse ++ before, after⟩ = true) := by
  constructor
  · rintro ⟨_, tail, rfl, isRange, isTail⟩
    obtain ⟨opens, ⟨_, digits', rfl, ⟨digits, middle, rfl, isNumber, isMark⟩, isNumber'⟩, closes⟩ :=
      takes_bounded.1 isRange
    obtain ⟨gap, mark, gap', rfl, blank, known, blank'⟩ := takes_rangeMark.1 isMark
    let range : RangeText := ⟨⟨[], digits, [], .inl rfl, isNumber_of_takes isNumber, .inl rfl⟩, gap,
      mark, gap', ⟨[], digits', [], .inl rfl, isNumber_of_takes isNumber', .inl rfl⟩, blank, known,
      blank', by simp⟩
    have whole : digits ++ (gap ++ (mark ++ gap')) ++ digits' = range.text := by
      simp [range, RangeText.text, RangeText.middle, Sum.text]
    rw [whole] at opens closes isTail ⊢
    refine ⟨range, tail, rfl, ⟨rfl, rfl, rfl, rfl⟩, by simpa using opens, closes, ?_, ?_⟩
    · rcases takes_opt.1 isTail with ⟨unit, _, rfl, isUnit, rfl, -⟩ | rfl
      · rw [List.append_nil]
        exact takes_distanceTail.1 (takes_opt.2 (.inl isUnit))
      · exact .inl rfl
    · intro nonempty
      obtain ⟨unit, _, rfl, -, rfl, edge⟩ := (takes_opt.1 isTail).resolve_right nonempty
      simpa using edge
  · rintro ⟨range, tail, rfl, plain, opens, closes, isTail, ends⟩
    refine ⟨range.text, tail, rfl, takes_bounded.2 ⟨by simpa using opens,
      ⟨range.first.text ++ range.middle, range.second.text, by simp [RangeText.text],
        ⟨range.first.text, range.middle, rfl, ?_, takes_rangeMark.2 ⟨range.gap, range.mark,
          range.gap', rfl, range.blank, range.known, range.blank'⟩⟩, ?_⟩, closes⟩, ?_⟩
    · have alone : range.first.text = range.first.digits := by
        rw [Sum.text, plain.sign, plain.letter, List.nil_append, List.append_nil]
      rw [alone]
      exact takes_number.2 range.first.isNumber
    · have alone : range.second.text = range.second.digits := by
        rw [Sum.text, plain.sign', plain.letter', List.nil_append, List.append_nil]
      rw [alone]
      exact takes_number.2 range.second.isNumber
    · by_cases none : tail = []
      · exact takes_opt.2 (.inr none)
      · refine takes_opt.2 (.inl ⟨tail, [], (List.append_nil _).symm, ?_, rfl, ?_⟩)
        · exact (takes_opt.1 (takes_distanceTail.2 isTail)).resolve_right none
        · simpa using ends none

end Takes

end Keywords
end SearchPhrase
