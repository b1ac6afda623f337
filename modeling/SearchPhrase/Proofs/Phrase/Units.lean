import SearchPhrase.Proofs.Pattern.Occurrences
import SearchPhrase.Proofs.Phrase.Amounts
import SearchPhrase.Proofs.Phrase.Sources

/-!
# Amounts before a unit of distance

A limit with an amount before a unit is read as a distance first.  It is left over for prices only
when it is not written as a distance is, when another limit with a unit comes before it, or when it
does not fit the distances that are known already.
-/

namespace SearchPhrase

namespace Figure

open Cursor Pattern Text Unicode

/-- Whether a text begins with a unit of distance, white space aside. -/
def startsWithUnit (text : Text) : Bool :=
  distanceWords.any fun unit => unit.toList == (trimStart text).takeWhile isAlphabetic

theorem precedesDistance_eq (found : Match) :
    found.precedesDistance = startsWithUnit found.after :=
  rfl

variable {text : Text}

theorem exists_unit_of_startsWithUnit (starts : startsWithUnit text = true) :
    ∃ gap, ∃ unit ∈ distanceWords,
      text = gap ++ (unit.toList ++ (trimStart text).dropWhile isAlphabetic) ∧
        isBlank gap = true := by
  obtain ⟨unit, known, same⟩ := List.any_eq_true.1 starts
  refine ⟨text.takeWhile isWhiteSpace, unit, known, ?_, ?_⟩
  · rw [beq_iff_eq.1 same, List.takeWhile_append_dropWhile, trimStart,
      List.takeWhile_append_dropWhile]
  · exact List.all_takeWhile

/-- No unit begins with another letter than the units do. -/
theorem startsWithUnit_append_cons
    {gap rest : Text}
    {c : Char}
    (blank : isBlank gap = true)
    (visible : isWhiteSpace c = false)
    (other : c ∉ ['k', 'm', 'o']) :
    startsWithUnit (gap ++ c :: rest) = false := by
  apply Bool.eq_false_iff.2
  intro starts
  obtain ⟨gap', unit, known, split, blank'⟩ := exists_unit_of_startsWithUnit starts
  obtain ⟨d, letter, others, shape⟩ := exists_head_of_mem_distanceWords known
  have letters : ∀ d ∈ ['k', 'm', 'o'], isWhiteSpace d = false := by decide
  obtain ⟨-, same⟩ := append_inj_of_kind (isBlank_iff.1 blank) (isBlank_iff.1 blank')
    (by simpa using visible) (by simpa [shape] using letters d letter) split
  rw [shape, List.cons_append] at same
  obtain ⟨rfl, -⟩ := List.cons.inj same
  exact other letter

end Figure

namespace Mileage

open Cursor Figure Pattern Text Unicode

/-- The words of a limit with a unit after the first one. -/
def trailers : List String :=
  ["than", "k"] ++ distanceWords

/-- A word of a limit with a unit after the first one. -/
def IsTrailer (word : Text) : Prop :=
  ∃ name ∈ trailers, word = name.toList

theorem areWords_trailers : areWords trailers = true := by
  decide

theorem beginApart_trailers (side : Side) : beginApart trailers side.firstWords = true := by
  cases side <;> decide

theorem IsTrailer.isWord
    {word : Text}
    (isTrailer : IsTrailer word) :
    ∀ c ∈ word, isWord c = true := by
  obtain ⟨name, known, rfl⟩ := isTrailer
  exact (of_areWords areWords_trailers known).2.1

theorem exists_first_of_announces
    {side : Side}
    {text : Text}
    (announces : side.Announces text) :
    ∃ name ∈ side.firstWords, ∃ rest, text = name.toList ++ rest ∧ Phrased IsTrailer rest := by
  cases announces with
  | @word name known =>
      exact ⟨name, List.mem_cons_of_mem _ known, [], (List.append_nil _).symm, .nil⟩
  | than nonempty blank =>
      refine ⟨side.comparative, List.mem_cons_self, _, rfl, ?_⟩
      exact (Phrased.of_isBlank blank).append (.of_word ⟨"than", by decide, rfl⟩)

namespace UnitForm

variable {side : Side} {cover : Match} (form : UnitForm side cover)

/-- What stands after the number. -/
def closing : Text :=
  form.gap' ++ (form.letter ++ (form.gap'' ++ form.unit.toList))

theorem phrased_closing : Phrased IsTrailer form.closing := by
  have letter : Phrased IsTrailer form.letter := by
    rcases form.isLetter with none | thousands
    · exact none ▸ .nil
    · exact .of_word ⟨"k", by decide, thousands⟩
  have unit : Phrased IsTrailer form.unit.toList :=
    .of_word ⟨form.unit, List.mem_append_right _ form.known, rfl⟩
  exact (Phrased.of_isBlank form.blank').append
    (letter.append ((Phrased.of_isBlank form.blank'').append unit))

theorem whole_closing : cover.text = form.words ++ (form.gap ++ (form.digits ++ form.closing)) :=
  form.whole

include form in
/-- A limit that begins within a limit with a unit begins where that one does. -/
theorem head_eq_nil
    {other : Side}
    {name : String}
    {head rest tail : Text}
    (known : name ∈ other.firstWords)
    (split : cover.text = head ++ rest)
    (nonempty : rest ≠ [])
    (fresh : startsWithWord head.reverse = false)
    (begins : rest ++ cover.after = name.toList ++ tail) :
    head = [] := by
  have starts := startsWithWord_name_append other.areWords_firstWords known tail
  have notDigit := startsWithDigit_name_append other.areWords_firstWords known tail
  have notTrailer : ∀ word, IsTrailer word → ∀ others, name.toList ++ tail ≠ word ++ others := by
    rintro _ ⟨trailer, known', rfl⟩ others same
    exact append_ne_append_of_beginApart (beginApart_trailers other) known' known others tail
      same.symm
  have solid : ∀ word, IsTrailer word → ∀ c ∈ word, isWord c = true :=
    fun _ isTrailer => isTrailer.isWord
  have place : WordBegins head (name.toList ++ tail) := ⟨fresh, starts⟩
  obtain ⟨first, known', more, words, phrased⟩ := exists_first_of_announces form.announces
  have whole : head ++ (name.toList ++ tail) =
      first.toList ++ (more ++ form.gap ++ (form.digits ++ (form.closing ++ cover.after))) := by
    rw [← begins, ← List.append_assoc, ← split, form.whole_closing, words]
    simp only [List.append_assoc]
  rcases place.eq_nil_or_append (of_areWords side.areWords_firstWords known').2.1 whole with
    ⟨none, -⟩ | ⟨middle, rfl, later⟩
  · exact none
  -- Past the first word, no word that a limit begins with follows any more.
  exfalso
  rcases (phrased.append (.of_isBlank form.blank)).word_of_cut solid later place.of_append with
    ⟨word, isTrailer, others, same⟩ | ⟨middle', rfl, onward⟩
  · exact notTrailer word isTrailer others same
  obtain ⟨part, rfl, last⟩ := form.isNumber.exists_past starts notDigit onward
  rcases form.phrased_closing.word_of_cut solid last place.of_append.of_append.of_append with
    ⟨word, isTrailer, others, same⟩ | ⟨beyond, rfl, -⟩
  · exact notTrailer word isTrailer others same
  · have lengths := congrArg List.length split
    rw [form.whole_closing, words] at lengths
    simp only [List.length_append] at lengths
    exact nonempty (List.length_eq_zero_iff.1 (by omega))

end UnitForm

/-- What stands after a number that counts a distance: perhaps a scale letter, and a unit that is a
whole word. -/
inductive IsUnitTail (letter : Text) : Text → Prop where
  /-- White space may stand before the letter and before the unit. -/
  | parts {gap gap' rest : Text} {unit : String} (blank : isBlank gap = true)
      (isLetter : letter = [] ∨ letter = ['k']) (blank' : isBlank gap' = true)
      (known : unit ∈ distanceWords) (ended : startsWithWord rest = false) :
      IsUnitTail letter (gap ++ (letter ++ (gap' ++ (unit.toList ++ rest))))

/-- No number goes on into a scale letter or a unit. -/
theorem IsUnitTail.stops
    {letter text : Text}
    (isTail : IsUnitTail letter text) :
    ∀ c ∈ text.head?, inNumber c = false := by
  have letters : ∀ c ∈ ['k', 'm', 'o'], inNumber c = false := by decide
  have spaces : ∀ {c : Char} {gap : Text}, isBlank (c :: gap) = true → inNumber c = false := by
    intro c gap blank
    exact inNumber_of_isWhiteSpace (isBlank_iff.1 blank c List.mem_cons_self)
  obtain @⟨gap, gap', rest, unit, blank, isLetter, blank', known, -⟩ := isTail
  obtain ⟨d, known, others, shape⟩ := exists_head_of_mem_distanceWords known
  cases gap with
  | cons c gap => simpa using spaces blank
  | nil =>
      rcases isLetter with rfl | rfl
      · cases gap' with
        | cons c gap' => simpa using spaces blank'
        | nil => simpa [shape] using letters d known
      · simpa using letters 'k' (by decide)

/-- The word of a unit is read in one way only. -/
theorem takeWhile_unit_append
    {unit : String}
    {rest : Text}
    (known : unit ∈ distanceWords)
    (ended : startsWithWord rest = false) :
    (unit.toList ++ rest).takeWhile isWord = unit.toList := by
  apply takeWhile_append_of_stops (of_areWords (by decide) known).2.1
  intro c first
  obtain ⟨others, rfl⟩ := List.head?_eq_some_iff.1 first
  exact ended

/-- A unit is no scale letter after which no word goes on. -/
theorem unit_append_ne_cons
    {unit : String}
    {rest rest' : Text}
    (known : unit ∈ distanceWords)
    (ended : startsWithWord rest = false)
    (ended' : startsWithWord rest' = false) :
    unit.toList ++ rest ≠ 'k' :: rest' := by
  intro same
  have first := takeWhile_unit_append known ended
  have nothing : rest'.takeWhile isWord = [] := by
    cases rest' with
    | nil => rfl
    | cons c others => exact List.takeWhile_cons_of_neg (Bool.eq_false_iff.1 ended')
  rw [same, List.takeWhile_cons_of_pos (by decide), nothing] at first
  have apart : ∀ unit ∈ distanceWords, ['k'] ≠ unit.toList := by decide
  exact apart unit known first

/-- A unit does not begin with a scale letter before another unit. -/
theorem unit_append_ne
    {unit unit' : String}
    {gap rest rest' : Text}
    (known : unit ∈ distanceWords)
    (known' : unit' ∈ distanceWords)
    (blank : isBlank gap = true)
    (ended : startsWithWord rest = false)
    (ended' : startsWithWord rest' = false) :
    unit.toList ++ rest ≠ 'k' :: (gap ++ (unit'.toList ++ rest')) := by
  by_cases spaced : gap = []
  · intro same
    have first := takeWhile_unit_append known ended
    rw [same, spaced, List.takeWhile_cons_of_pos (by decide), List.nil_append,
      takeWhile_unit_append known' ended'] at first
    have apart : ∀ unit ∈ distanceWords, ∀ unit' ∈ distanceWords,
        'k' :: unit'.toList ≠ unit.toList := by
      decide
    exact apart unit known unit' known' first
  · exact unit_append_ne_cons known ended (startsWithWord_gap_append spaced blank _)

/-- Where a unit follows a number, it begins after the white space there. -/
theorem IsUnitTail.exists_unit
    {gap rest : Text}
    (plain : IsUnitTail [] (gap ++ 'k' :: rest))
    (blank : isBlank gap = true) :
    ∃ unit ∈ distanceWords, ∃ others : Text, unit.toList ++ others = 'k' :: rest ∧
      startsWithWord others = false := by
  generalize whole : gap ++ 'k' :: rest = text at plain
  obtain @⟨gap', gap'', others, unit, blank', -, blank'', known, ended⟩ := plain
  obtain ⟨c, letter, more, shape⟩ := exists_head_of_mem_distanceWords known
  have letters : ∀ c ∈ ['k', 'm', 'o'], isWhiteSpace c = false := by decide
  have spaces : ∀ c ∈ gap' ++ gap'', isWhiteSpace c = true := by
    intro c member
    rcases List.mem_append.1 member with member | member
    · exact isBlank_iff.1 blank' c member
    · exact isBlank_iff.1 blank'' c member
  have same : gap ++ 'k' :: rest = gap' ++ gap'' ++ (unit.toList ++ others) := by
    simpa using whole
  obtain ⟨-, same⟩ := append_inj_of_kind (isBlank_iff.1 blank) spaces (by simp; decide)
    (by simpa [shape] using letters c letter) same
  exact ⟨unit, known, others, same.symm, ended⟩

/-- Where there is a scale letter before a unit, there is none without one. -/
theorem not_isUnitTail_nil
    {text : Text}
    (scaled : IsUnitTail ['k'] text) :
    ¬IsUnitTail [] text := by
  intro plain
  obtain @⟨gap, gap', rest, unit, blank, -, blank', known, ended⟩ := scaled
  obtain ⟨unit', known', rest', same, ended'⟩ := plain.exists_unit blank
  exact unit_append_ne known' known blank' ended' ended same

/-- Nor is there a unit where a scale letter ends a word. -/
theorem not_isUnitTail_cons
    {gap rest : Text}
    (blank : isBlank gap = true)
    (ended : startsWithWord rest = false) :
    ¬IsUnitTail [] (gap ++ 'k' :: rest) := by
  intro plain
  obtain ⟨unit, known, rest', same, ended'⟩ := plain.exists_unit blank
  exact unit_append_ne_cons known ended' ended same

/-- A scale letter may stand before a unit. -/
theorem IsUnitTail.scaled
    {gap rest : Text}
    (plain : IsUnitTail [] rest)
    (blank : isBlank gap = true) :
    IsUnitTail ['k'] (gap ++ 'k' :: rest) := by
  obtain @⟨gap', gap'', others, unit, blank', -, blank'', known, ended⟩ := plain
  have spaces : isBlank (gap' ++ gap'') = true := by
    rw [isBlank, List.all_append, Bool.and_eq_true]
    exact ⟨blank', blank''⟩
  have tail := IsUnitTail.parts blank (.inr rfl) spaces known ended
  simpa using tail

/-- A number that counts a distance, and its scale letter, are read in one way only. -/
theorem IsUnitTail.eq_of_append
    {digits letter tail digits' letter' tail' : Text}
    (isTail : IsUnitTail letter tail)
    (isTail' : IsUnitTail letter' tail')
    (isNumber : IsNumber digits)
    (isNumber' : IsNumber digits')
    (same : digits ++ tail = digits' ++ tail') :
    digits = digits' ∧ letter = letter' := by
  obtain ⟨rfl, rfl⟩ := append_inj_of_kind (fun _ => inNumber_of_mem isNumber)
    (fun _ => inNumber_of_mem isNumber') isTail.stops isTail'.stops same
  refine ⟨rfl, ?_⟩
  have forms : ∀ {letter : Text}, IsUnitTail letter tail → letter = [] ∨ letter = ['k'] := by
    rintro letter ⟨-, isLetter⟩
    exact isLetter
  rcases forms isTail with rfl | rfl
  · rcases forms isTail' with rfl | rfl
    · rfl
    · exact absurd isTail (not_isUnitTail_nil isTail')
  · rcases forms isTail' with rfl | rfl
    · exact absurd isTail' (not_isUnitTail_nil isTail)
    · rfl

/-- A limit with an amount in thousands or in units, before a unit that is a whole word, is taken as
a limit with a unit. -/
theorem takes_limitWithUnit
    {side : Side}
    {before words gap digits letter gap' rest : Text}
    {unit : String}
    (opens : atBoundary ⟨before, words ++ (gap ++ (digits ++ (letter ++ (gap' ++ unit.toList)))) ++
      rest⟩ = true)
    (announces : side.Announces words)
    (spaced : gap ≠ [])
    (blank : isBlank gap = true)
    (isNumber : IsNumber digits)
    (isLetter : letter = [] ∨ letter = ['k'])
    (blank' : isBlank gap' = true)
    (known : unit ∈ distanceWords)
    (ended : startsWithWord rest = false) :
    (limitWithUnit side.limit).Takes before
      (words ++ (gap ++ (digits ++ (letter ++ (gap' ++ unit.toList))))) rest := by
  have solid := of_areWords (by decide : areWords distanceWords = true) known
  refine takes_bounded.2 ⟨opens, ?_, ?_⟩
  · refine ⟨words ++ gap ++ digits ++ [] ++ letter ++ gap', unit.toList, by simp,
      ⟨_, gap', rfl, ⟨_, letter, rfl, ⟨_, [], rfl, ⟨_, digits, rfl, ⟨words, gap, rfl, ?_, ?_⟩, ?_⟩,
        ?_⟩, ?_⟩, ?_⟩, ?_⟩
    · exact Side.takes_limit.2 announces
    · exact takes_blank.2 ⟨spaced, blank⟩
    · exact takes_number.2 isNumber
    · exact takes_gap.2 rfl
    · rcases isLetter with rfl | rfl
      · exact takes_opt.2 (.inr rfl)
      · exact takes_opt.2 (.inl (takes_capture.2 (takes_only.2 rfl)))
    · exact takes_gap.2 blank'
    · exact takes_oneOf.2 ⟨unit, known, rfl⟩
  · simp only [← List.append_assoc]
    exact atBoundary_of_solid solid.1 solid.2.1 ended

/-- Why a limit that stands before a unit of distance is left over by the distances. -/
inductive Leftover (text : Text) (side : Side) (found : Match) (sum : Sum) (value : UInt64) :
    Prop where
  /-- There is a currency sign before the number. -/
  | signed (sign : sum.sign ≠ [])
  /-- The number counts millions. -/
  | millions (letter : sum.letter = ['m'])
  /-- The word of the unit goes on with what is no letter. -/
  | runsOn (goes : startsWithWord ((trimStart found.after).dropWhile isAlphabetic) = true)
  /-- Another limit with a unit comes before it. -/
  | later {first : Match} (known : (limitWithUnit side.limit).find? text = some first)
      (before : first.before.length + first.text.length ≤ found.before.length)
  /-- It does not fit the distances that are known already. -/
  | refused (refuses : Refuses text value side)

/-- Two limits with an amount at one place have the same number after them. -/
theorem eq_of_append_number
    {side other : Side}
    {words gap number words' gap' number' : Text}
    (announces : side.Announces words)
    (blank : isBlank gap = true)
    (digit : startsWithDigit number = true)
    (announces' : other.Announces words')
    (blank' : isBlank gap' = true)
    (digit' : startsWithDigit number' = true)
    (same : words ++ (gap ++ number) = words' ++ (gap' ++ number')) :
    number = number' := by
  have free : ∀ {side : Side} {words gap : Text}, side.Announces words → isBlank gap = true →
      ∀ c ∈ words ++ gap, (!isWordDigit c) = true := by
    intro side words gap announces blank c member
    rw [Bool.not_eq_true']
    exact announces.isWordDigit_append blank member
  have stops : ∀ {number : Text}, startsWithDigit number = true →
      ∀ c ∈ number.head?, (!isWordDigit c) = false := by
    intro number digit c first
    obtain ⟨others, rfl⟩ := List.head?_eq_some_iff.1 first
    rw [Bool.not_eq_false']
    exact digit
  rw [← List.append_assoc, ← List.append_assoc] at same
  exact (append_inj_of_kind (free announces blank) (free announces' blank') (stops digit)
    (stops digit') same).2

namespace UnitForm

variable {side : Side} {cover : Match} (form : UnitForm side cover)

include form in
/-- No word goes on after the unit. -/
theorem startsWithWord_after : startsWithWord cover.after = false := by
  have solid := of_areWords (by decide : areWords distanceWords = true) form.known
  have closes := form.closes
  rw [form.whole] at closes
  simp only [← List.append_assoc] at closes
  exact startsWithWord_eq_false_of_solid closes solid.1 solid.2.1

/-- The limit ends in a scale letter, if there is one, and a unit. -/
theorem isUnitTail_closing : IsUnitTail form.letter (form.closing ++ cover.after) := by
  have parts := IsUnitTail.parts form.blank' form.isLetter form.blank'' form.known
    form.startsWithWord_after
  simpa only [closing, List.append_assoc] using parts

include form in
/-- A limit with a unit that begins where a limit of a price does reads the same amount. -/
theorem amount?_eq_value?
    {found : Match}
    {gap rest : Text}
    {unit : String}
    (limit : Budget.LimitForm side found)
    (unsigned : limit.sum.sign = [])
    (isLetter : limit.sum.letter = [] ∨ limit.sum.letter = ['k'])
    (blank : isBlank gap = true)
    (known : unit ∈ distanceWords)
    (ended : startsWithWord rest = false)
    (same : cover.text ++ cover.after = found.text ++ (gap ++ (unit.toList ++ rest))) :
    cover.amount? .left .leftScale = limit.sum.value? := by
  have isTail : IsUnitTail limit.sum.letter
      ([] ++ (limit.sum.letter ++ (gap ++ (unit.toList ++ rest)))) :=
    .parts isBlank_nil isLetter blank known ended
  have numbers : form.digits ++ (form.closing ++ cover.after) =
      limit.sum.digits ++ (limit.sum.letter ++ (gap ++ (unit.toList ++ rest))) := by
    apply eq_of_append_number form.announces form.blank (form.isNumber.startsWithDigit _)
      limit.announces limit.blank (limit.sum.isNumber.startsWithDigit _)
    rw [form.whole_closing, limit.whole, Sum.text, unsigned] at same
    simpa only [List.append_assoc, List.nil_append] using same
  obtain ⟨digits, letter⟩ := form.isUnitTail_closing.eq_of_append isTail form.isNumber
    limit.sum.isNumber numbers
  rw [form.value, digits, letter]
  rfl

end UnitForm

/-- Occurrences that begin at the same place share a byte. -/
theorem meets_of_before_eq
    {pattern other : Pattern}
    {text : Text}
    {found found' : Match}
    (member : found ∈ pattern.findAll text)
    (member' : found' ∈ other.findAll text)
    (same : found.before = found'.before) :
    found.span.meets found'.span = true := by
  have positive := byteLength_pos (whole_of_mem_findAll member).2
  have positive' := byteLength_pos (whole_of_mem_findAll member').2
  simp only [Span.meets_iff, Match.span, same]
  omega

section Limits

variable {text gap rest : Text} {side : Side} {found : Match} {unit : String}

/-- A limit of a price begins at the edge of a word. -/
theorem wordBegins_of_limitForm (form : Budget.LimitForm side found) :
    WordBegins found.before.reverse (found.text ++ found.after) := by
  have starts : startsWithWord (found.text ++ found.after) = true := by
    rw [form.whole, List.append_assoc]
    exact form.announces.startsWithWord _
  refine ⟨?_, starts⟩
  rw [List.reverse_reverse]
  exact startsWithWord_eq_false_of_atBoundary form.opens starts

/-- A limit of a price is a limit with a unit together with the unit after it. -/
theorem takes_of_limitForm
    (form : Budget.LimitForm side found)
    (unsigned : form.sum.sign = [])
    (isLetter : form.sum.letter = [] ∨ form.sum.letter = ['k'])
    (after : found.after = gap ++ (unit.toList ++ rest))
    (blank : isBlank gap = true)
    (known : unit ∈ distanceWords)
    (ended : startsWithWord rest = false) :
    (limitWithUnit side.limit).Takes found.before (found.text ++ (gap ++ unit.toList)) rest := by
  have parts : found.text ++ (gap ++ unit.toList) = form.words ++ (form.gap ++
      (form.sum.digits ++ (form.sum.letter ++ (gap ++ unit.toList)))) := by
    simp only [form.whole, Sum.text, unsigned, List.append_assoc, List.nil_append]
  have opens := form.opens
  rw [after, ← List.append_assoc gap, ← List.append_assoc, parts] at opens
  rw [parts]
  exact takes_limitWithUnit opens form.announces form.spaced form.blank form.sum.isNumber
    isLetter blank known ended

/-- A limit of a price that is written as a distance is found as one, with the same amount. -/
theorem exists_withUnit_of_limited
    (member : found ∈ (Budget.limited side.limit).findAll text)
    (form : Budget.LimitForm side found)
    (unsigned : form.sum.sign = [])
    (isLetter : form.sum.letter = [] ∨ form.sum.letter = ['k'])
    (starts : startsWithUnit found.after = true)
    (ended : startsWithWord ((trimStart found.after).dropWhile isAlphabetic) = false) :
    ∃ cover ∈ (limitWithUnit side.limit).findAll text, cover.before = found.before ∧
      cover.amount? .left .leftScale = form.sum.value? := by
  obtain ⟨gap, unit, known, after, blank⟩ := exists_unit_of_startsWithUnit starts
  generalize (trimStart found.after).dropWhile isAlphabetic = rest at ended after
  have takes := takes_of_limitForm form unsigned isLetter after blank known ended
  have whole : found.before.reverse ++ (found.text ++ (gap ++ unit.toList) ++ rest) = text := by
    rw [← (whole_of_mem_findAll member).1, after]
    simp only [List.append_assoc]
  have visible : (limitWithUnit side.limit).isVisible = true := by cases side <;> decide
  obtain ⟨cover, member', head, part, before, split, nonempty, tail⟩ :=
    exists_cut_of_takes visible whole takes
  have same : part ++ cover.after = found.text ++ (gap ++ (unit.toList ++ rest)) := by
    rw [tail]
    simp only [List.append_assoc]
  obtain ⟨coverForm⟩ := nonempty_unitForm member'
  -- The limit begins a word, which within a limit with a unit only its first word can be.
  have begins := wordBegins_of_limitForm form
  rw [before] at begins
  obtain ⟨first, isFirst, others, words⟩ := form.announces.begins
  have limit : part ++ cover.after = first.toList ++
      (others ++ (form.gap ++ (form.sum.text ++ (gap ++ (unit.toList ++ rest))))) := by
    rw [same, form.whole, words]
    simp only [List.append_assoc]
  obtain rfl := coverForm.head_eq_nil isFirst split nonempty begins.of_append.fresh limit
  refine ⟨cover, member', by simpa using (congrArg List.reverse before).symm, ?_⟩
  apply coverForm.amount?_eq_value? form unsigned isLetter blank known ended
  rw [split, List.nil_append, same]

end Limits

/-- A limit before a unit that is no distance is left over for a reason. -/
theorem leftover_of_limited
    {text : Text}
    {side : Side}
    {found : Match}
    {value : UInt64}
    (member : found ∈ (Budget.limited side.limit).findAll text)
    (form : Budget.LimitForm side found)
    (free : found.span.meetsAny (read text).spans = false)
    (amount : form.sum.value? = some value)
    (unit : startsWithUnit found.after = true) :
    Leftover text side found form.sum value := by
  by_cases unsigned : form.sum.sign = []
  case neg => exact .signed unsigned
  by_cases isLetter : form.sum.letter = [] ∨ form.sum.letter = ['k']
  case neg =>
    rcases form.sum.isLetter with none | thousands | millions
    · exact absurd (.inl none) isLetter
    · exact absurd (.inr thousands) isLetter
    · exact .millions millions
  cases goes : startsWithWord ((trimStart found.after).dropWhile isAlphabetic) with
  | true => exact .runsOn goes
  | false =>
      obtain ⟨cover, member', place, same⟩ :=
        exists_withUnit_of_limited member form unsigned isLetter unit goes
      obtain ⟨first, known⟩ := exists_find?_eq_some member'
      rcases eq_or_le_of_find? known member' with rfl | before
      · have read : withUnit? side.limit text = some (value, cover.span) := by
          simp [withUnit?, known, same, amount]
        rcases mem_or_refuses read with claimed | refuses
        · have meets := meets_of_before_eq member' member place
          rw [Span.meetsAny_eq_false_iff.1 free _ claimed] at meets
          cases meets
        · exact .refused refuses
      · exact .later known (place ▸ before)

end Mileage
end SearchPhrase
