import SearchPhrase.Proofs.Pattern.Alphabet
import SearchPhrase.Proofs.Phrase.PlainRanges
import SearchPhrase.Proofs.Phrase.WholeLimits

/-!
# Prices that leave the keywords

What a price is read from is meant to be gone from the keywords.  Limits and amounts between two
others always are.  A bare range is read by one pattern, with a sign and a letter at either end, but
is taken out by several, which leave the ranges of another form and those that other expressions cut
into.
-/

namespace SearchPhrase

open Cursor Figure Keywords Pattern Text Unicode

namespace Stretch

variable {text : Text} {stretch : Stretch text}

/-- No word goes on into a stretch if none does in lower case. -/
theorem fresh_of_lowered
    (fresh : startsWithWord stretch.lowered.before.reverse = false) :
    startsWithWord stretch.before.reverse = false := by
  rcases stretch.before_lowered_cases with same | ⟨fresh, -⟩
  · rwa [← same]
  · exact fresh

/-- No word goes on after a stretch if none does in lower case. -/
theorem ended_of_lowered
    (ended : startsWithWord stretch.lowered.after = false) :
    startsWithWord stretch.after = false := by
  rcases stretch.after_lowered_cases with same | ⟨ended, -⟩
  · rwa [← same]
  · exact ended

end Stretch

namespace Interpretation

/-- Why a range that prices are read from does not leave the keywords as a whole. -/
inductive Missed {phrase : Text} (stretch : Stretch phrase) (range : RangeText) : Prop where
  /-- The first amount is a plain number, whereas the second has a sign or a letter. -/
  | mixed (unsigned : range.first.sign ≠ ['$']) (plain : range.first.letter = [])
      (other : range.second.sign ≠ [] ∨ range.second.letter ≠ []) : Missed stretch range
  /-- A word goes on into the first number. -/
  | joined (unsigned : range.first.sign = [])
      (goesOn : startsWithWord stretch.before.reverse = true) : Missed stretch range
  /-- It is a range of plain numbers that is found and left where it is. -/
  | refused {core : Core stretch} {trimmed : RangeCore range}
      (body : folded core.body = trimmed.core.text) (plain : trimmed.core.IsPlain)
      (encounter : Encounter core) (own : encounter.pass = plainRanges) (covers : encounter.Covers)
      (refused : Keywords.Refused trimmed.core encounter.found) : Missed stretch range
  /-- What is taken out first takes in only a part of it, signs apart from it and commas at its end
  aside. -/
  | cut {core : Core stretch} {trimmed : RangeCore range}
      (body : folded core.body = trimmed.core.text) (encounter : Encounter core)
      (partly : ¬encounter.Covers) : Missed stretch range

section Sources

variable {phrase : Text} {stretch : Stretch phrase} {pattern : Pattern} {found : Match}
  {member : found ∈ pattern.findAll (lowercase phrase)}
  (lowered : stretch.lowered = .ofMatch member)
  (same : folded stretch.body = found.text)

include lowered

theorem before_lowered_eq : stretch.lowered.before = found.before.reverse := by
  rw [lowered]
  rfl

theorem after_lowered_eq : stretch.lowered.after = found.after := by
  rw [lowered]
  rfl

include same

/-- An expression ends between words without the commas that it ends in. -/
theorem exists_core_of_closes
    {head body commas : Text}
    (parts : found.text = head ++ (body ++ commas))
    (wordless : IsWordless head)
    (all : IsWordless commas)
    (ends : startsWithWord body.reverse = true)
    (closes : atBoundary ⟨found.text.reverse ++ found.before, found.after⟩ = true) :
    ∃ core : Core stretch, folded core.head = head ∧ folded core.body = body ∧
      Apart core.body.reverse core.after := by
  have nonempty : body ≠ [] := by
    rintro rfl
    cases ends
  obtain ⟨core, sameHead, sameBody, sameTail⟩ :=
    exists_core (same.trans parts) wordless all nonempty
  refine ⟨core, sameHead, sameBody, .inr ?_⟩
  by_cases none : core.tail = []
  · -- The stretch itself ends in a word, and no word goes on there.
    have none' : commas = [] := by
      rw [← sameTail, none]
      rfl
    have last : startsWithWord (found.text.reverse ++ found.before) = true := by
      rw [parts, none', List.append_nil, startsWithWord_append (by simp [nonempty]),
        startsWithWord_reverse_append nonempty]
      exact ends
    have ended := startsWithWord_eq_false_of_atBoundary' closes last
    rw [← after_lowered_eq lowered] at ended
    rw [Core.after, none, List.nil_append]
    exact Stretch.ended_of_lowered ended
  · rw [Core.after, startsWithWord_append none]
    exact core.wordlessTail.startsWithWord

/-- An expression that begins with a word stands between words without the commas at its end. -/
theorem exists_core_of_opens
    {body commas : Text}
    (parts : found.text = body ++ commas)
    (all : IsWordless commas)
    (starts : startsWithWord body = true)
    (ends : startsWithWord body.reverse = true)
    (opens : atBoundary ⟨found.before, found.text ++ found.after⟩ = true)
    (closes : atBoundary ⟨found.text.reverse ++ found.before, found.after⟩ = true) :
    ∃ core : Core stretch, folded core.body = body ∧ Apart core.before.reverse core.body ∧
      Apart core.body.reverse core.after := by
  have nonempty : body ≠ [] := by
    rintro rfl
    cases starts
  rw [parts, List.append_assoc] at opens
  have fresh := startsWithWord_eq_false_of_atBoundary opens
    ((startsWithWord_append nonempty _).trans starts)
  rw [← List.reverse_reverse found.before, ← before_lowered_eq lowered] at fresh
  obtain ⟨core, head, body, closes⟩ := @exists_core_of_closes _ _ _ _ _ lowered same [] _ _ parts
    isWordless_nil all ends closes
  refine ⟨core, body, .inl ?_, closes⟩
  rw [Core.before, List.map_eq_nil_iff.1 head, List.append_nil]
  exact Stretch.fresh_of_lowered fresh

end Sources

section Limits

variable {phrase : Text} {stretch : Stretch phrase} {found : Match}
  (kept : collapse (strip phrase) ≠ []) (same : folded stretch.body = found.text)

include kept same

/-- A claimed limit leaves the keywords. -/
theorem isRemoved_of_limited
    {side : Side}
    {member : found ∈ (Budget.limited side.limit).findAll (lowercase phrase)}
    (lowered : stretch.lowered = .ofMatch member) :
    IsRemoved stretch := by
  obtain ⟨limit, whole, opens, closes⟩ := Budget.takes_limited.1 (takes_of_mem_findAll member)
  obtain ⟨trimmed, commas, parts, wordless, ends⟩ := limit.exists_core
  have last : startsWithWord trimmed.text.reverse = true := by
    rwa [LimitText.text, ← List.append_assoc, startsWithWord_reverse_append trimmed.sum.text_ne_nil]
  obtain ⟨core, body, opens, closes⟩ := exists_core_of_opens lowered same (whole.trans parts)
    wordless (trimmed.announces.startsWithWord _) last opens closes
  exact isRemoved_of_limit kept opens closes body ends

/-- A claimed amount between two others leaves the keywords. -/
theorem isRemoved_of_betweenAmounts
    {member : found ∈ Budget.between.findAll (lowercase phrase)}
    (lowered : stretch.lowered = .ofMatch member) :
    IsRemoved stretch := by
  obtain ⟨range, whole, -, opens, closes⟩ := Budget.takes_between.1 (takes_of_mem_findAll member)
  obtain ⟨trimmed, commas, parts, wordless, ends⟩ := range.exists_core
  have last : startsWithWord trimmed.text.reverse = true := by
    rwa [BetweenText.text, startsWithWord_reverse_append trimmed.second.text_ne_nil]
  obtain ⟨core, body, opens, closes⟩ := exists_core_of_opens lowered same (whole.trans parts)
    wordless rfl last opens closes
  exact isRemoved_of_between kept opens closes body ends

end Limits

section Ranges

variable {phrase : Text} {stretch : Stretch phrase} {range : RangeText}

/-- A replacement for price expressions leaves a blank. -/
theorem residue_of_mem
    {pass : Pass}
    (known : pass ∈ priceExpressions.map blanking)
    (found : Match) :
    pass.residue found = [' '] := by
  obtain ⟨pattern, -, rfl⟩ := List.mem_map.1 known
  rfl

variable (kept : collapse (strip phrase) ≠ []) {core : Core stretch} {trimmed : RangeCore range}
  (body : folded core.body = trimmed.core.text)

include kept body

/-- A range leaves the keywords where a blank is left for what meets it, unless that takes in only a
part of it. -/
theorem removed_or_cut
    (encounter : Encounter core)
    (blank : encounter.pass.residue encounter.found = [' ']) :
    IsRemoved stretch ∨ Missed stretch range := by
  by_cases covers : encounter.Covers
  · exact .inl (encounter.isRemoved kept covers blank)
  · exact .inr (.cut body encounter covers)

variable (opens : Apart core.before.reverse core.body) (closes : Apart core.body.reverse core.after)

include opens closes

/-- A range that begins with a dollar sign leaves the keywords, unless it is cut. -/
theorem removed_or_missed_of_signed
    (sign : trimmed.core.first.sign = ['$']) :
    IsRemoved stretch ∨ Missed stretch range := by
  obtain ⟨encounter, known⟩ := @nonempty_encounter _ _ _
    [blanking limitExpression.ignoreCase, blanking betweenExpression.ignoreCase] _
    (blanking currencyRange.ignoreCase) core rfl rfl (by decide) (by decide)
    (body ▸ takesAlone_currencyRange trimmed.ends sign) opens closes
  exact removed_or_cut kept body encounter
    (residue_of_mem (List.mem_append_left [blanking scaledRange.ignoreCase] known) _)

/-- A range that begins with a scaled number leaves the keywords, unless it is cut. -/
theorem removed_or_missed_of_scaled
    (unsigned : trimmed.core.first.sign = [])
    (scaled : trimmed.core.first.letter ≠ []) :
    IsRemoved stretch ∨ Missed stretch range := by
  obtain ⟨encounter, known⟩ := @nonempty_encounter _ _ _
    [blanking limitExpression.ignoreCase, blanking betweenExpression.ignoreCase,
      blanking currencyRange.ignoreCase] _
    (blanking scaledRange.ignoreCase) core rfl rfl (by decide) (by decide)
    (body ▸ takesAlone_scaledRange trimmed.ends unsigned scaled) opens closes
  exact removed_or_cut kept body encounter (residue_of_mem known _)

/-- A range of plain numbers leaves the keywords, unless it is cut or refused. -/
theorem removed_or_missed_of_plain
    (plain : trimmed.core.IsPlain)
    (token : EndsToken core.before)
    (floor : (Amount.read? trimmed.core.first.digits none).any (Budget.bareRangeFloor < ·) = true)
    (floor' :
      (Amount.read? trimmed.core.second.digits none).any (Budget.bareRangeFloor < ·) = true) :
    IsRemoved stretch ∨ Missed stretch range := by
  obtain ⟨encounter, -⟩ := @nonempty_encounter _ _ plainForm (priceExpressions.map blanking) []
    plainRanges core rfl rfl (by decide) (by decide)
      (body ▸ takesAlone_plainForm trimmed.ends plain)
    opens closes
  rcases List.mem_append.1 encounter.pass_mem with known | known
  · exact removed_or_cut kept body encounter (residue_of_mem known _)
  · have own := List.mem_singleton.1 known
    by_cases covers : encounter.Covers
    · rcases isPriceRange_or_refused encounter own covers body plain token floor floor' with
        price | refused
      · refine removed_or_cut kept body encounter ?_
        rw [own]
        exact if_pos price
      · exact .inr (.refused body plain encounter own covers refused)
    · exact .inr (.cut body encounter covers)

end Ranges

section Ranges

variable {phrase : Text} {stretch : Stretch phrase} {found : Match}
  {member : found ∈ Budget.bareRange.findAll (lowercase phrase)}

/-- What is read from an amount without a letter is read from its number. -/
theorem read?_of_value?
    {sum : Sum}
    {value : UInt64}
    (plain : sum.letter = [])
    (known : sum.value? = some value) :
    Amount.read? sum.digits none = some value := by
  rwa [Sum.value?, Sum.suffix?, plain] at known

/-- A token may begin after a sign with white space after it. -/
theorem endsToken_append_sign
    {sign head : Text}
    (isSign : IsSign sign)
    (spaced : sign ≠ [] ∧ sign ≠ ['$'])
    (same : folded head = sign)
    (before : Text) :
    EndsToken (before ++ head) := by
  obtain ⟨gap, shape, blank⟩ := isSign.resolve_left spaced.1
  have nonempty : gap ≠ [] := by
    rintro rfl
    exact spaced.2 shape
  obtain ⟨mark, rest, rfl⟩ := List.exists_cons_of_ne_nil
    (show head ≠ [] by rintro rfl; exact spaced.1 same.symm)
  rw [shape, folded_cons] at same
  have letters : folded rest = gap := (List.cons.inj same).2
  intro c last
  obtain ⟨front, d, rfl⟩ := (List.eq_nil_or_concat rest).resolve_left (by
    rintro rfl
    exact nonempty letters.symm)
  have parts : before ++ mark :: front.concat d = (before ++ mark :: front) ++ [d] := by simp
  rw [parts, List.getLast?_concat] at last
  cases last
  have space : isWhiteSpace c = true := by
    rw [← isWhiteSpace_foldCase]
    refine isBlank_iff.1 blank _ ?_
    rw [← letters]
    exact List.mem_map_of_mem (by simp)
  have others : c ≠ '.' ∧ c ≠ ',' := by
    constructor <;> rintro rfl <;> exact absurd space (by decide)
  simp [isAlphanumeric_of_isWhiteSpace space, others]

/-- A token begins at the first number of a range if one begins at the range, unless the number has
no sign and a word goes on into it. -/
theorem begins_core
    {core : Core stretch}
    {range : RangeText}
    (head : folded core.head = range.first.sign)
    (sign : range.first.sign ≠ ['$'])
    (begins : EndsToken stretch.lowered.before)
    (fresh : range.first.sign = [] → startsWithWord stretch.before.reverse = false) :
    startsWithWord core.before.reverse = false ∧ EndsToken core.before := by
  by_cases none : range.first.sign = []
  · rw [none] at head
    rw [Core.before, List.map_eq_nil_iff.1 head, List.append_nil]
    exact ⟨fresh none, begins.of_lowered (fresh none)⟩
  · have nonempty : core.head ≠ [] := by
      intro same
      rw [same] at head
      exact none head.symm
    refine ⟨?_, endsToken_append_sign range.first.isSign ⟨none, sign⟩ head _⟩
    rw [Core.before, startsWithWord_reverse_append nonempty]
    exact core.wordlessHead.reverse.startsWithWord

/-- A claimed range leaves the keywords, unless it is missed for a reason. -/
theorem removed_or_missed_of_bareRange
    {first second : UInt64}
    (kept : collapse (strip phrase) ≠ [])
    (lowered : stretch.lowered = .ofMatch member)
    (same : folded stretch.body = found.text)
    (amounts : Budget.bothAmounts? found = some (first, second))
    (floor : Budget.bareRangeFloor < first ∧ Budget.bareRangeFloor < second)
    (begins : found.beginsToken = true) :
    ∃ range : RangeText, folded stretch.body = range.text ∧
      (IsRemoved stretch ∨ Missed stretch range) := by
  obtain ⟨range, whole, closes, value, value'⟩ := Budget.exists_rangeText_of_mem member
  obtain ⟨trimmed⟩ := nonempty_rangeCore range
  obtain ⟨amount, amount'⟩ := Budget.bothAmounts?_eq_some amounts
  refine ⟨range, same.trans whole, ?_⟩
  obtain ⟨core, head, body, closes⟩ := exists_core_of_closes lowered same
    (whole.trans trimmed.whole) trimmed.isWordless_head (isWordless_of_commas trimmed.all)
    (RangeText.startsWithWord_reverse trimmed.ends) closes
  rcases trimmed.signed with ⟨-, signed, -⟩ | ⟨sign, unsigned, dropped⟩
  · refine removed_or_missed_of_signed kept body (.inr ?_) closes signed
    rw [← startsWithWord_folded, body, RangeText.text, Sum.text, signed]
    rfl
  · by_cases joined : range.first.sign = [] ∧ startsWithWord stretch.before.reverse = true
    · exact .inr (.joined joined.1 joined.2)
    · obtain ⟨fresh, token⟩ := begins_core (head.trans dropped) sign (by
        rw [before_lowered_eq lowered]
        exact endsToken_iff_beginsToken.2 begins) (by simpa using joined)
      by_cases scaled : trimmed.core.first.letter = []
      · by_cases plain : trimmed.core.second.sign = [] ∧ trimmed.core.second.letter = []
        · rw [trimmed.value?_first] at value
          rw [trimmed.value?_second] at value'
          refine removed_or_missed_of_plain kept body (.inl fresh) closes
            ⟨unsigned, scaled, plain.1, plain.2⟩ token ?_ ?_
          · rw [read?_of_value? scaled (value.symm.trans amount)]
            simpa using floor.1
          · rw [read?_of_value? plain.2 (value'.symm.trans amount')]
            simpa using floor.2
        · refine .inr (.mixed sign (trimmed.letter ▸ scaled) ?_)
          rw [← trimmed.sign', ← trimmed.letter', ← not_and_or]
          exact plain
      · exact removed_or_missed_of_scaled kept body (.inl fresh) closes unsigned scaled

end Ranges

/-- A claimed price leaves the keywords as far as anything is left there, or it is a range that is
missed for a reason. -/
theorem removed_or_missed
    (phrase : String)
    (kept : collapse (strip phrase.toList) ≠ [])
    {span : Span}
    (claimed : span ∈ (openPrices (lowercase phrase.toList)).spans) :
    ∃ stretch : Stretch phrase.toList, stretch.lowered.span = span ∧
      (IsRemoved stretch ∨
        ∃ range : RangeText, folded stretch.body = range.text ∧ Missed stretch range) := by
  obtain ⟨side, value, source⟩ := (Budget.isTraced_read _ _).isBuilt.allowed claimed
  have exists_stretch : ∀ {pattern : Pattern} {found : Match}
      (member : found ∈ pattern.findAll (lowercase phrase.toList)),
      pattern.isWithin isUnmarked = true → ∃ stretch : Stretch phrase.toList,
        stretch.lowered = .ofMatch member ∧ folded stretch.body = found.text := by
    intro pattern found member within
    exact Stretch.exists_lowered_eq (whole_of_mem_findAll member).2
      (isUnmarked_of_takes within (takes_of_mem_findAll member))
  cases source with
  | limit member _ _ =>
      obtain ⟨stretch, lowered, same⟩ := exists_stretch member (by cases side <;> decide)
      exact ⟨stretch, by rw [lowered, Stretch.span_ofMatch],
        .inl (isRemoved_of_limited kept same lowered)⟩
  | between member _ _ =>
      obtain ⟨stretch, lowered, same⟩ := exists_stretch member (by decide)
      exact ⟨stretch, by rw [lowered, Stretch.span_ofMatch],
        .inl (isRemoved_of_betweenAmounts kept same lowered)⟩
  | range member _ amounts floor begins _ =>
      obtain ⟨stretch, lowered, same⟩ := exists_stretch member (by decide)
      refine ⟨stretch, by rw [lowered, Stretch.span_ofMatch], ?_⟩
      obtain ⟨range, whole, removed | missed⟩ :=
        removed_or_missed_of_bareRange kept lowered same amounts floor begins
      · exact .inl removed
      · exact .inr ⟨range, whole, missed⟩

/-- A range with a sign at its second end only is claimed, and there is a reason if it stays. -/
theorem exists_missed_range :
    ∃ stretch : Stretch "sofa 1500-$2500".toList, stretch.lowered.span = ⟨5, 15⟩ ∧
      (IsRemoved stretch ∨
        ∃ range : RangeText, folded stretch.body = range.text ∧ Missed stretch range) := by
  have claimed : (⟨5, 15⟩ : Span) ∈ (openPrices (lowercase "sofa 1500-$2500".toList)).spans := by
    decide +kernel
  exact removed_or_missed "sofa 1500-$2500" (by decide +kernel) claimed

/-- A range with a sign at its second end only is read as a price and stays among the keywords. -/
theorem kept_of_mixed :
    collapse (strip "sofa 1500-$2500".toList) ≠ [] ∧
      (ofPhrase "sofa 1500-$2500").filters.price = { lower := some 1500, upper := some 2500 } ∧
      (ofPhrase "sofa 1500-$2500").filters.query = "sofa 1500-$2500" ∧
      ∃ stretch : Stretch "sofa 1500-$2500".toList,
        stretch.lowered.span ∈ (openPrices (lowercase "sofa 1500-$2500".toList)).spans ∧
        ¬IsRemoved stretch := by
  refine ⟨by decide +kernel, by decide +kernel, by decide +kernel,
    ⟨"sofa ".toList, "1500-$2500".toList, [], by decide⟩, by decide +kernel, ?_⟩
  unfold IsRemoved
  decide +kernel

end Interpretation
end SearchPhrase
