import SearchPhrase.Proofs.Phrase.PriceCores
import SearchPhrase.Proofs.Phrase.Units
import SearchPhrase.Proofs.Text.Lowered

/-!
# Ranges of two plain numbers

A range of two plain numbers is taken out of the keywords if it carries no unit of distance, begins
a token, and has two ends that are large enough and unlike years.  Where a price is such a range,
the search finds it with the same two numbers, so that only a unit or a year can keep it in place.
-/

namespace SearchPhrase

open Cursor Figure Pattern Text Unicode

namespace Text

/-- Whether a token may begin after a text, which ends in no letter, number, point or comma. -/
def EndsToken (text : Text) : Prop :=
  ∀ c ∈ text.getLast?, (isAlphanumeric c || c == '.' || c == ',') = false

theorem endsToken_iff_beginsToken {found : Match} :
    EndsToken found.before.reverse ↔ found.beginsToken = true := by
  unfold EndsToken Match.beginsToken
  cases found.before with
  | nil => simp
  | cons c rest => simp

/-- A token may begin at a stretch if it may in lower case, unless a word goes on there. -/
theorem EndsToken.of_lowered
    {text : Text}
    {stretch : Stretch text}
    (token : EndsToken stretch.lowered.before)
    (fresh : startsWithWord stretch.before.reverse = false) :
    EndsToken stretch.before := by
  intro c last
  obtain ⟨front, shape⟩ := List.getLast?_eq_some_iff.1 last
  obtain ⟨image, d, form⟩ := (List.eq_nil_or_concat _).resolve_left
    (lowerIn_ne_nil (front.reverse ++ []) c (stretch.body ++ stretch.after))
  have member : d ∈ lowerIn (front.reverse ++ []) c (stretch.body ++ stretch.after) := by
    rw [form, List.concat_eq_append]
    exact List.mem_append_right _ List.mem_cons_self
  have token : (isAlphanumeric d || d == '.' || d == ',') = false := by
    refine token d ?_
    rw [Stretch.before_lowered, shape, lowercaseBetween_concat, form]
    simp
  have notWord : isWord c = false := by
    rw [shape, List.reverse_append] at fresh
    exact fresh
  simp only [Bool.or_eq_false_iff, beq_eq_false_iff_ne] at token ⊢
  obtain ⟨⟨notLetter, notPoint⟩, notComma⟩ := token
  -- Points and commas stay as they are.
  have stays : c = '.' ∨ c = ',' → d = c := by
    intro known
    have basic : isBasic (CharClass.foldCase c) = true ∧ c ≠ Char.ofNat 0x17F ∧
        CharClass.foldCase c = c := by
      rcases known with rfl | rfl <;> decide
    rw [lowerIn_of_isBasic basic.1 basic.2.1, basic.2.2] at member
    exact List.mem_singleton.1 member
  refine ⟨⟨?_, fun point => ?_⟩, fun comma => ?_⟩
  · rw [← Bool.not_eq_true]
    intro known
    rw [isAlphanumeric_of_mem_lowerIn member notWord known] at notLetter
    cases notLetter
  · exact notPoint ((stays (.inl point)).trans point)
  · exact notComma ((stays (.inr comma)).trans comma)

/-- A token may begin where words are left out before a stretch. -/
theorem EndsToken.thins
    {before after before' after' : Text}
    (token : EndsToken before)
    (thins : Pass.Thins before after before' after') :
    EndsToken before' := by
  intro c last
  by_cases blank : c = ' '
  · rw [blank]
    decide
  · exact token c (thins.last c last blank)

/-- No number goes on where a token may begin. -/
theorem EndsToken.inNumber
    {text : Text}
    (token : EndsToken text) :
    ∀ c ∈ text.getLast?, inNumber c = false :=
  fun c last => inNumber_of_apart (token c last)

end Text

namespace Figure

/-- What folds to a part of a number is that part. -/
theorem foldCase_eq_self
    {c : Char}
    (known : inNumber (CharClass.foldCase c) = true) :
    CharClass.foldCase c = c := by
  unfold CharClass.foldCase at known ⊢
  split at known
  · exact absurd known (by decide)
  · split at known
    · exact absurd known (by decide)
    · next notKelvin notLongS =>
        rw [if_neg notKelvin, if_neg notLongS]
        by_cases ascii : c.toNat < 128
        · exact forall_ascii (P := fun c => inNumber c.toLower = true → c.toLower = c) (by decide)
            ascii known
        · exact toLower_of_not_ascii ascii

theorem IsNumber.folded_eq_self
    {digits : Text}
    (isNumber : IsNumber (folded digits)) :
    folded digits = digits := by
  have each : ∀ c ∈ digits, CharClass.foldCase c = c := fun c member =>
    foldCase_eq_self (inNumber_of_mem isNumber (List.mem_map_of_mem member))
  exact (List.map_congr_left each).trans (List.map_id' digits)

namespace RangeText

variable (range : RangeText)

/-- There is no digit between the two amounts of a range. -/
theorem isWordDigit_of_mem_middle
    {c : Char}
    (member : c ∈ range.middle) :
    isWordDigit c = false :=
  isWordDigit_of_mem_mark range.blank range.known range.blank' member

/-- No number goes on into the mark of a range. -/
theorem inNumber_of_head?_middle {c : Char} (first : c ∈ range.middle.head?) :
    inNumber c = false := by
  have marks : inNumber '-' = false ∧ inNumber 't' = false := by decide
  unfold middle at first
  cases shape : range.gap with
  | nil =>
      rw [shape, List.nil_append] at first
      rcases range.known with same | same <;> rw [same] at first <;> cases first
      · exact marks.1
      · exact marks.2
  | cons d gap =>
      rw [shape] at first
      cases first
      exact inNumber_of_isWhiteSpace (isBlank_iff.1 range.blank c (by simp [shape]))

variable {range}

/-- A range of plain numbers is made of them and what stands between. -/
theorem IsPlain.text_eq (plain : range.IsPlain) :
    range.text = range.first.digits ++ (range.middle ++ range.second.digits) := by
  simp [text, Sum.text, plain.sign, plain.letter, plain.sign', plain.letter']

end RangeText

theorem isWordDigit_of_mem_distanceTail
    {tail : Text}
    {c : Char}
    (isTail : IsDistanceTail tail)
    (member : c ∈ tail) :
    isWordDigit c = false := by
  have letters : ∀ unit ∈ distanceWords, ∀ c ∈ unit.toList, isWordDigit c = false := by decide
  rcases isTail with rfl | ⟨gap, unit, rfl, blank, known⟩
  · exact absurd member List.not_mem_nil
  · rcases List.mem_append.1 member with member | member
    · exact isWordDigit_of_isBlank blank member
    · exact letters unit known c member

/-- No number goes on into a unit of distance. -/
theorem inNumber_of_head?_distanceTail
    {tail : Text}
    {c : Char}
    (isTail : IsDistanceTail tail)
    (first : c ∈ tail.head?) :
    inNumber c = false := by
  have letters : ∀ unit ∈ distanceWords, ∀ c ∈ unit.toList.head?, inNumber c = false := by decide
  rcases isTail with rfl | ⟨gap, unit, rfl, blank, known⟩
  · cases first
  · cases gap with
    | nil => exact letters unit known c first
    | cons d gap =>
        cases first
        exact inNumber_of_isWhiteSpace (isBlank_iff.1 blank c List.mem_cons_self)

/-- Of two numbers at one place, the longer one goes on with a digit, or with nothing but commas. -/
theorem IsNumber.exists_more
    {digits digits' tail rest : Text}
    (isNumber : IsNumber digits)
    (isNumber' : IsNumber digits')
    (stops : ∀ c ∈ tail.head?, inNumber c = false)
    (whole : digits' ++ tail = digits ++ rest) :
    ∃ more, digits' = digits ++ more ∧
      ((∃ c ∈ more, isWordDigit c = true) ∨ ∀ c ∈ more, c = ',') := by
  rcases List.append_eq_append_iff.1 whole with ⟨part, shorter, shape⟩ | ⟨more, longer, -⟩
  · cases part with
    | nil => exact ⟨[], by simpa using shorter.symm, .inr (by simp)⟩
    | cons c part =>
        have within : inNumber c = true := inNumber_of_mem isNumber (by rw [shorter]; simp)
        rw [stops c (by rw [shape]; rfl)] at within
        cases within
  · refine ⟨more, longer, ?_⟩
    obtain ⟨core, commas, same, isCore, all, ends⟩ := isNumber'.exists_core
    rw [longer] at same
    rcases List.append_eq_append_iff.1 same with ⟨part, shape, shape'⟩ | ⟨part, -, shape'⟩
    · rcases List.eq_nil_or_concat part with rfl | ⟨front, c, rfl⟩
      · exact .inr (by simpa [shape'] using all)
      · refine .inl ⟨c, by simp [shape'], ?_⟩
        have inWord : isWord c = true := by simpa [shape, startsWithWord] using ends
        rcases isCore.mem (c := c) (by simp [shape]) with digit | rfl | rfl
        · exact digit
        · exact absurd inWord (by decide)
        · exact absurd inWord (by decide)
    · exact .inr fun c member => all c (by rw [shape']; exact List.mem_append_right _ member)

theorem IsNumber.exists_digit {digits : Text} (isNumber : IsNumber digits) :
    ∃ c rest, digits = c :: rest ∧ isWordDigit c = true := by
  obtain ⟨c, whole, fraction, rfl, digit, -⟩ := isNumber
  exact ⟨c, whole ++ fraction, rfl, digit⟩

namespace RangeText

variable {range other : RangeText} {head tail tail' : Text}

/-- A range of plain numbers that lies within another one, perhaps with a unit after it, lies at its
start, unless it begins within a number. -/
theorem eq_nil_of_within
    (plain : range.IsPlain)
    (plain' : other.IsPlain)
    (isTail : IsDistanceTail tail')
    (fresh : ∀ c ∈ head.getLast?, inNumber c = false)
    (whole : other.text ++ tail' = head ++ (range.text ++ tail)) :
    head = [] := by
  rcases List.eq_nil_or_concat head with none | ⟨front, h, rfl⟩
  · exact none
  · exfalso
    obtain ⟨a, digits, first, digit⟩ := range.first.isNumber.exists_digit
    obtain ⟨b, digits', second, digit'⟩ := range.second.isNumber.exists_digit
    obtain ⟨m, mark, middle⟩ := List.exists_cons_of_ne_nil range.middle_ne_nil
    rw [plain'.text_eq, plain.text_eq, first, second, middle] at whole
    have whole : other.first.digits ++ (other.middle ++ (other.second.digits ++ tail')) =
        front ++ h :: (a :: (digits ++ m :: (mark ++ b :: (digits' ++ tail)))) := by
      simpa using whole
    -- One after another, the places lie beyond the first number, the mark and the second number.
    have outside : h ∉ other.first.digits := by
      intro member
      have within := inNumber_of_mem other.first.isNumber member
      rw [fresh h (by simp)] at within
      cases within
    obtain ⟨part, -, whole⟩ := exists_of_append_cons outside whole
    have outside : a ∉ other.middle := by
      intro member
      rw [other.isWordDigit_of_mem_middle member] at digit
      cases digit
    rw [List.append_cons part] at whole
    obtain ⟨part, -, whole⟩ := exists_of_append_cons outside whole
    have outside : m ∉ other.second.digits := by
      intro member
      have within := inNumber_of_mem other.second.isNumber member
      rw [range.inNumber_of_head?_middle (by rw [middle]; rfl)] at within
      cases within
    rw [← List.cons_append, ← List.append_assoc] at whole
    obtain ⟨part, -, rfl⟩ := exists_of_append_cons outside whole
    rw [@isWordDigit_of_mem_distanceTail _ b isTail (by simp)] at digit'
    cases digit'

/-- A range of plain numbers at the start of another one has its first number and its mark. -/
theorem parts_eq_of_prefix
    (plain : range.IsPlain)
    (plain' : other.IsPlain)
    (whole : other.text ++ tail' = range.text ++ tail) :
    other.first.digits = range.first.digits ∧
      other.second.digits ++ tail' = range.second.digits ++ tail := by
  rw [plain'.text_eq, plain.text_eq, List.append_assoc, List.append_assoc, List.append_assoc,
    List.append_assoc] at whole
  have stops : ∀ (range : RangeText) (rest : Text), ∀ c ∈ (range.middle ++ rest).head?,
      inNumber c = false := by
    intro range rest c first
    rw [List.head?_append, List.head?_eq_some_head range.middle_ne_nil, Option.some_or] at first
    exact range.inNumber_of_head?_middle (by
      rw [List.head?_eq_some_head range.middle_ne_nil]
      exact first)
  obtain ⟨same, whole⟩ := append_inj_of_kind (fun _ => inNumber_of_mem other.first.isNumber)
    (fun _ => inNumber_of_mem range.first.isNumber) (stops other _) (stops range _) whole
  refine ⟨same, ?_⟩
  have noDigit : ∀ range : RangeText, ∀ c ∈ range.middle, (!isWordDigit c) = true := by
    intro range c member
    simp [range.isWordDigit_of_mem_middle member]
  have begins : ∀ (sum : Sum) (rest : Text), ∀ c ∈ (sum.digits ++ rest).head?,
      (!isWordDigit c) = false := by
    intro sum rest c first
    obtain ⟨d, digits, shape, digit⟩ := sum.isNumber.exists_digit
    rw [shape] at first
    cases first
    simp [digit]
  exact (append_inj_of_kind (noDigit other) (noDigit range) (begins other.second _)
    (begins range.second _) whole).2

end RangeText

end Figure

namespace Keywords

/-- The parts of an occurrence of two plain numbers, and what is recorded of them. -/
theorem exists_rangeText_of_mem
    {text : Text}
    {found : Match}
    (member : found ∈ plainRange.findAll text) :
    ∃ (range : RangeText) (body tail : Text), found.text = body ++ tail ∧ folded body = range.text ∧
      range.IsPlain ∧ IsDistanceTail (folded tail) ∧
      atBoundary ⟨body.reverse ++ found.before, tail ++ found.after⟩ = true ∧
      found.slot? .left = some range.first.digits ∧
      found.slot? .right = some range.second.digits := by
  obtain ⟨body, tail, early, late, whole, captures, records, recordsTail⟩ :=
    records_append.1 (records_of_mem_findAll member)
  obtain ⟨opens, records, closes⟩ := records_bounded.1 records
  obtain ⟨_, digits', early', late', rfl, rfl, records, records'⟩ := records_append.1 records
  obtain ⟨digits, middle, rfl, records, isMark⟩ := (records_append_plain (by decide)).1 records
  obtain ⟨isNumber, rfl⟩ := (records_capture (by decide)).1 records
  obtain ⟨isNumber', rfl⟩ := (records_capture (by decide)).1 records'
  have isNumber : IsNumber (folded digits) :=
    @isNumber_of_takes .left _ _ _ ((takes_ignoreCase (by decide)).1 isNumber)
  have isNumber' : IsNumber (folded digits') :=
    @isNumber_of_takes .right _ _ _ ((takes_ignoreCase (by decide)).1 isNumber')
  obtain ⟨gap, mark, gap', shape, blank, known, blank'⟩ :=
    takes_rangeMark.1 ((takes_ignoreCase (by decide)).1 isMark)
  have same := isNumber.folded_eq_self
  have same' := isNumber'.folded_eq_self
  rw [same] at isNumber
  rw [same'] at isNumber'
  let range : RangeText := ⟨⟨[], digits, [], .inl rfl, isNumber, .inl rfl⟩, gap, mark, gap',
    ⟨[], digits', [], .inl rfl, isNumber', .inl rfl⟩, blank, known, blank', by simp⟩
  have tailForm : IsDistanceTail (folded tail) ∧ ∀ capture ∈ late, capture.slot = .unit := by
    rcases records_opt.1 recordsTail with recordsUnit | ⟨rfl, rfl⟩
    · obtain ⟨isUnit, rfl⟩ := (records_capture (by decide)).1 recordsUnit
      obtain ⟨unit, _, shape, isUnit, rfl, -⟩ := (takes_ignoreCase (by decide)).1 isUnit
      rw [List.append_nil] at shape
      rw [shape]
      exact ⟨takes_distanceTail.1 (takes_opt.2 (.inl isUnit)), by simp⟩
    · exact ⟨.inl rfl, by simp⟩
  obtain ⟨isTail, units⟩ := tailForm
  have skipped : ∀ slot : Slot, slot ≠ .unit →
      late.find? (fun capture => capture.slot = slot) = none := by
    intro slot other
    rw [List.find?_eq_none]
    intro capture member
    simpa [units capture member] using other.symm
  refine ⟨range, digits ++ middle ++ digits', tail, whole, ?_, ⟨rfl, rfl, rfl, rfl⟩, isTail, closes,
    ?_, ?_⟩
  · simp [range, RangeText.text, RangeText.middle, Sum.text, same, same', shape]
  · simp [Match.slot?, captures, skipped, range]
  · simp [Match.slot?, captures, skipped, range]

/-- Why a range of plain numbers stays where it is. -/
inductive Refused (plain : RangeText) (found : Match) : Prop where
  /-- A unit of distance is found after it. -/
  | unit (recorded : (found.slot? .unit).isSome = true) : Refused plain found
  /-- One of its numbers looks like a year. -/
  | year {slot : Slot} {number : Text} (recorded : found.slot? slot = some number)
      (year : looksLikeYear number = true) : Refused plain found
  /-- Its second number goes on. -/
  | goesOn {more : Text} (recorded : found.slot? .right = some (plain.second.digits ++ more))
      (digit : ∃ c ∈ more, isWordDigit c = true) : Refused plain found

variable {plain : RangeText}

/-- Where a token may begin right before a range of plain numbers, an occurrence that takes the
range in begins there. -/
theorem eq_nil_of_endsToken
    {other : RangeText}
    {before head past tail : Text}
    (isPlain : plain.IsPlain)
    (isPlain' : other.IsPlain)
    (isTail : IsDistanceTail tail)
    (token : EndsToken (before ++ head))
    (parts : other.text ++ tail = folded head ++ (plain.text ++ past)) :
    head = [] := by
  have begins : folded head = [] := by
    refine RangeText.eq_nil_of_within isPlain isPlain' isTail ?_ parts
    intro c last
    rw [folded, List.getLast?_map] at last
    obtain ⟨d, last', rfl⟩ := Option.map_eq_some_iff.1 last
    have known : d ∈ (before ++ head).getLast? := by
      rw [List.getLast?_append, last']
      rfl
    have notNumber := token.inNumber d known
    rw [← Bool.not_eq_true] at notNumber ⊢
    exact fun isNumber => notNumber (foldCase_eq_self isNumber ▸ isNumber)
  exact List.map_eq_nil_iff.1 begins

/-- A range of two numbers that are large enough reads as a price unless there is a reason to leave
it. -/
theorem isPriceRange_or_refused_of_slots
    {found : Match}
    {more : Text}
    (token : EndsToken found.before.reverse)
    (left : found.slot? .left = some plain.first.digits)
    (right : found.slot? .right = some (plain.second.digits ++ more))
    (commas : ∀ c ∈ more, c = ',')
    (floor : (Amount.read? plain.first.digits none).any (Budget.bareRangeFloor < ·) = true)
    (floor' : (Amount.read? plain.second.digits none).any (Budget.bareRangeFloor < ·) = true) :
    isPriceRange found = true ∨ Refused plain found := by
  by_cases reason : Refused plain found
  · exact .inr reason
  · left
    have unitless : found.slot? .unit = none := by
      rw [← Option.not_isSome_iff_eq_none]
      exact fun recorded => reason (.unit recorded)
    have noYear : ∀ {slot number}, found.slot? slot = some number →
        looksLikeYear number = false := by
      intro slot number recorded
      rw [← Bool.not_eq_true]
      exact fun year => reason (.year recorded year)
    have value : Amount.read? (plain.second.digits ++ more) none =
        Amount.read? plain.second.digits none :=
      Amount.read?_append_commas commas
    simp [isPriceRange, isPriceEnd, unitless, endsToken_iff_beginsToken.1 token, left, right,
      noYear left, noYear right, value, floor, floor']

variable {phrase : Text} {stretch : Stretch phrase} {core : Core stretch}

/-- Where a price is a range of plain numbers, the search takes it out with the same numbers, unless
there is a reason to leave it. -/
theorem isPriceRange_or_refused
    (encounter : Encounter core)
    (own : encounter.pass = plainRanges)
    (covers : encounter.Covers)
    (whole : folded core.body = plain.text)
    (isPlain : plain.IsPlain)
    (token : EndsToken core.before)
    (floor : (Amount.read? plain.first.digits none).any (Budget.bareRangeFloor < ·) = true)
    (floor' : (Amount.read? plain.second.digits none).any (Budget.bareRangeFloor < ·) = true) :
    isPriceRange encounter.found = true ∨ Refused plain encounter.found := by
  have member := encounter.member
  rw [own] at member
  obtain ⟨other, body, tail, split, same, isPlain', isTail, -, left, right⟩ :=
    exists_rangeText_of_mem member
  unfold Encounter.Covers at covers
  rw [← Stretch.span_ofMatch encounter.member] at covers
  obtain ⟨head, past, place, within, -⟩ := Stretch.exists_split_of_covers covers.1 covers.2
  have place : encounter.before = encounter.found.before.reverse ++ head := place
  have within : encounter.found.text = head ++ (core.body ++ past) := within
  have parts : other.text ++ folded tail = folded head ++ (plain.text ++ folded past) := by
    rw [← same, ← folded_append, ← split, within, folded_append, folded_append, whole]
  have token := token.thins encounter.thins
  rw [place] at token
  obtain rfl : head = [] := eq_nil_of_endsToken isPlain isPlain' isTail token parts
  rw [List.append_nil] at token
  obtain ⟨first, second⟩ := RangeText.parts_eq_of_prefix isPlain isPlain' parts
  obtain ⟨more, second, kind⟩ := plain.second.isNumber.exists_more other.second.isNumber
    (fun _ => inNumber_of_head?_distanceTail isTail) second
  rw [first] at left
  rw [second] at right
  rcases kind with digit | commas
  · exact .inr (.goesOn right digit)
  · exact isPriceRange_or_refused_of_slots token left right commas floor floor'

end Keywords
end SearchPhrase
