import SearchPhrase.Proofs.Pattern.Alphabet
import SearchPhrase.Proofs.Phrase.Expressions
import SearchPhrase.Proofs.Phrase.Refusals
import SearchPhrase.Proofs.Phrase.Units

/-!
# Figures that are taken out without being read

A figure that is taken out of the keywords is meant to come back as a bound of the prices or of the
distances.  It does, unless every such figure of the phrase is one that the prices and the distances
leave alone: it is written differently from what they read, what they read there is refused, or
another expression decides first.
-/

namespace SearchPhrase

open Cursor Figure Pattern Text Unicode

namespace Keywords

/-- A stretch of a phrase that is a figure to be taken out of the keywords. -/
inductive IsFigure (phrase : Text) : Stretch phrase → Prop where
  /-- It is a price by its form alone. -/
  | expression {pattern : Pattern} {found : Match} (known : pattern ∈ priceExpressions)
      (member : found ∈ pattern.findAll phrase) : IsFigure phrase (.ofMatch member)
  /-- It is a range of two plain numbers that reads as a price. -/
  | range {found : Match} (member : found ∈ plainRange.findAll phrase)
      (price : isPriceRange found = true) : IsFigure phrase (.ofMatch member)

theorem foldl_blankOut_eq_self
    {patterns : List Pattern}
    {text : Text}
    (absent : ∀ pattern ∈ patterns, pattern.findAll text = []) :
    patterns.foldl blankOut text = text := by
  induction patterns with
  | nil => rfl
  | cons pattern patterns ih =>
      rw [List.foldl_cons, blankOut, replace_eq_self (absent pattern List.mem_cons_self)]
      exact ih fun other member => absent other (List.mem_cons_of_mem _ member)

/-- Where no range of plain numbers reads as a price, none is taken out. -/
theorem replace_rangeResidue_eq_self
    {text : Text}
    (refused : ∀ found ∈ plainRange.findAll text, isPriceRange found = false) :
    plainRange.replace rangeResidue text = text :=
  replace_eq_self_of_forall fun found member => by rw [rangeResidue, refused found member]; rfl

/-- A phrase that loses a figure holds one as it was written. -/
theorem exists_isFigure
    {phrase : Text}
    (lost : withoutFigures phrase ≠ phrase) :
    ∃ figure, IsFigure phrase figure := by
  by_contra none
  have absent : ∀ pattern ∈ priceExpressions, pattern.findAll phrase = [] := by
    intro pattern known
    rw [List.eq_nil_iff_forall_not_mem]
    exact fun found member => none ⟨_, .expression known member⟩
  have refused : ∀ found ∈ plainRange.findAll phrase, isPriceRange found = false := by
    intro found member
    rw [← Bool.not_eq_true]
    exact fun price => none ⟨_, .range member price⟩
  apply lost
  rw [withoutFigures, foldl_blankOut_eq_self absent, replace_rangeResidue_eq_self refused]

end Keywords

namespace Stretch

variable {text : Text}

/-- Whether an occurrence takes in the place where a stretch begins. -/
def BeginsWithin (stretch : Stretch text) (found : Match) : Prop :=
  found.span.start ≤ stretch.span.start ∧ stretch.span.start < found.span.stop

/-- Where a visible pattern takes the first part of a stretch, a search finds an occurrence that
takes in the place where the stretch begins. -/
theorem exists_beginsWithin
    {pattern : Pattern}
    {body rest : Text}
    (stretch : Stretch text)
    (visible : pattern.isVisible = true)
    (split : stretch.body = body ++ rest)
    (takes : pattern.Takes stretch.before.reverse body (rest ++ stretch.after)) :
    ∃ found ∈ pattern.findAll text, stretch.BeginsWithin found := by
  have whole : stretch.before.reverse.reverse ++ (body ++ (rest ++ stretch.after)) = text := by
    rw [List.reverse_reverse, ← List.append_assoc body, ← split]
    exact stretch.whole
  obtain ⟨found, member, head, part, before, parts, nonempty, -⟩ :=
    exists_cut_of_takes visible whole takes
  rw [List.reverse_reverse] at before
  have positive := byteLength_pos nonempty
  have start : stretch.span.start = byteLength found.before + byteLength head := by
    simp [span, before]
  have stop : found.span.stop = byteLength found.before + (byteLength head + byteLength part) := by
    simp [Match.span, parts]
  refine ⟨found, member, ?_, ?_⟩
  · rw [start]
    exact Nat.le_add_right _ _
  · rw [start, stop]
    omega

end Stretch

namespace Budget

/-- A limit whose amount ends at the edge of a word is read, if need be without the commas at the
end; otherwise a unit of distance follows the amount right away. -/
theorem takes_limited_or_attached
    {side : Side}
    {before tail after : Text}
    (limit : LimitText side)
    (isTail : IsDistanceTail tail)
    (opens : atBoundary ⟨before, limit.text ++ tail ++ after⟩ = true)
    (closes : atBoundary ⟨(limit.text ++ tail).reverse ++ before, after⟩ = true) :
    (∃ body rest, limit.text ++ tail = body ++ rest ∧
      (limited side.limit).Takes before body (rest ++ after)) ∨
      ∃ unit ∈ distanceWords, tail = unit.toList := by
  obtain ⟨core, commas, same, sign, -, -, all, ends⟩ := limit.sum.exists_core
  have parts :
      limit.text ++ tail = limit.words ++ (limit.gap ++ core.text) ++ (commas ++ tail) := by
    simp only [LimitText.text, same, List.append_assoc]
  have nonempty : core.text.reverse ≠ [] := by simpa using core.text_ne_nil
  by_cases ended : startsWithWord (commas ++ tail ++ after) = false
  · refine .inl ⟨_, _, parts, takes_limited.2 ⟨⟨limit.words, limit.gap, core, limit.announces,
      limit.spaced, limit.blank, sign ▸ limit.close⟩, rfl, ?_, ?_⟩⟩
    · rw [← List.append_assoc, ← parts]
      exact opens
    · rw [atBoundary_of_ended ended]
      simpa only [List.reverse_append, List.append_assoc, startsWithWord_append nonempty] using ends
  · right
    rw [Bool.not_eq_false] at ended
    cases commas with
    | cons comma _ =>
        have separates : isWord ',' = false := by decide
        rw [all comma List.mem_cons_self] at ended
        simp [startsWithWord, separates] at ended
    | nil =>
        rcases isTail with rfl | ⟨gap, unit, rfl, blank, known⟩
        · -- The limit ends in a word, which cannot go on at its edge.
          rw [List.append_nil, ← List.append_nil limit.text, parts] at closes
          have word : startsWithWord ((limit.words ++ (limit.gap ++ core.text) ++
              ([] ++ [])).reverse ++ before) = true := by
            simpa only [List.append_nil, List.reverse_append, List.append_assoc,
              startsWithWord_append nonempty] using ends
          have stops := startsWithWord_eq_false_of_atBoundary' closes word
          simp [stops] at ended
        · by_cases attached : gap = []
          · exact ⟨unit, known, by rw [attached, List.nil_append]⟩
          · rw [List.nil_append, List.append_assoc,
              startsWithWord_gap_append attached blank] at ended
            cases ended

end Budget

namespace Interpretation

/-- Why no price is read from what prices could be read from. -/
inductive Refused (text : Text) : Match → Prop where
  /-- A limit is claimed by years or cannot be read. -/
  | limit {side : Side} {found : Match}
      (member : found ∈ (Budget.limited side.limit).findAll text)
      (reason : found.span.meetsAny (Years.read text).spans = true ∨
        found.amount? .left .leftScale = none) : Refused text found
  /-- An amount between two others is claimed by years. -/
  | between {found : Match} (member : found ∈ Budget.between.findAll text)
      (claimed : found.span.meetsAny (Years.read text).spans = true) : Refused text found
  /-- A bare range cannot be read, begins no token, is claimed by years, stands before a unit of
  distance, or has an amount that is too small. -/
  | range {found : Match} (member : found ∈ Budget.bareRange.findAll text)
      (reason : Budget.bothAmounts? found = none ∨ found.beginsToken = false ∨
        found.span.meetsAny (Years.read text).spans = true ∨ found.precedesDistance = true ∨
        ∃ first second, Budget.bothAmounts? found = some (first, second) ∧
          (first ≤ Budget.bareRangeFloor ∨ second ≤ Budget.bareRangeFloor)) : Refused text found

/-- Whether a text is an expression of two amounts. -/
def IsPair (text : Text) : Prop :=
  (∃ range : BetweenText, text = range.text) ∨
    ∃ (range : RangeText) (tail : Text), IsDistanceTail tail ∧ text = range.text ++ tail

/-- Why no bound is read from a figure. -/
inductive Unread {phrase : Text} (figure : Stretch phrase) : Prop where
  /-- Lower case changes a letter in it, or a sign beside it into a letter. -/
  | unsettled (odd : figure.IsUnsettled)
  /-- It is a limit with a unit of distance right after the amount, which has a sign or counts
  millions, or the first limit with a unit cannot be read. -/
  | attached {side : Side} {unit : String} (limit : LimitText side) (known : unit ∈ distanceWords)
      (whole : folded figure.body = limit.text ++ unit.toList)
      (reason : limit.sum.sign ≠ [] ∨ limit.sum.letter = ['m'] ∨
        ∃ found, (Mileage.limitWithUnit side.limit).find? (lowercase phrase) = some found ∧
          found.amount? .left .leftScale = none) : Unread figure
  /-- It is an amount between two others, of which the first ends in a comma. -/
  | looseBetween (range : BetweenText) (whole : folded figure.body = range.text)
      (loose : startsWithWord range.first.text.reverse = false) : Unread figure
  /-- It is a range whose first amount does not end at the edge of a word. -/
  | looseRange (range : RangeText) {tail : Text} (isTail : IsDistanceTail tail)
      (whole : folded figure.body = range.text ++ tail)
      (loose : atBoundary ⟨range.first.text.reverse, range.middle⟩ = false) : Unread figure
  /-- What could be read there is refused. -/
  | refused {found : Match} (within : figure.lowered.BeginsWithin found)
      (refused : Refused (lowercase phrase) found) : Unread figure
  /-- It has two amounts, and the first "between" that could be read has none in ascending
  order. -/
  | outranked {found : Match} (pair : IsPair (folded figure.body))
      (first : Budget.freeBetween? (Years.read (lowercase phrase)).spans (lowercase phrase) =
        some found)
      (descends : ∀ low high, Budget.bothAmounts? found = some (low, high) → high < low) :
      Unread figure

section Nothing

variable {text : Text}

theorem refused_of_bareRange?
    {found : Match}
    (member : found ∈ Budget.bareRange.findAll text)
    (unread : Budget.bareRange? (Years.read text).spans found = none) :
    Refused text found := by
  refine .range member ?_
  cases amounts : Budget.bothAmounts? found with
  | none => exact .inl rfl
  | some pair =>
      right
      obtain ⟨first, second⟩ := pair
      by_contra suits
      simp only [not_or, not_exists, not_and, Bool.not_eq_false, Bool.not_eq_true, UInt64.not_le]
        at suits
      obtain ⟨begins, free, unitless, floor⟩ := suits
      obtain ⟨floor, floor'⟩ := floor first second rfl
      simp [Budget.bareRange?, amounts, begins, free, unitless, floor, floor'] at unread

theorem refused_of_limit?
    {side : Side}
    {found : Match}
    (member : found ∈ (Budget.limited side.limit).findAll text)
    (unread : Budget.limit? side.limit (Years.read text).spans text = none) :
    Refused text found := by
  refine .limit member ?_
  have unclaimed := List.findSome?_eq_none_iff.1 unread found member
  unfold Budget.unclaimed? at unclaimed
  split at unclaimed
  · next claimed => exact .inl claimed
  · exact .inr (Option.map_eq_none_iff.1 unclaimed)

/-- Without a distance, only years are kept from the prices. -/
theorem claimedSpans_eq
    (noDistance : (Mileage.read text).isNothing = true) :
    claimedSpans text = (Years.read text).spans := by
  rw [claimedSpans, (Mileage.isBuilt_read text).spans_eq_nil noDistance, List.append_nil]

end Nothing

section Figures

variable {phrase : Text} {figure : Stretch phrase}

/-- A limit is refused, or carries a unit of distance that is not read. -/
theorem unread_of_limit
    (noDistance : (Mileage.read (lowercase phrase)).isNothing = true)
    (noLimit : ∀ side : Side,
      Budget.limit? side.limit (Years.read (lowercase phrase)).spans (lowercase phrase) = none)
    (same : figure.lowered.body = folded figure.body)
    (takes : Keywords.limitExpression.Takes figure.lowered.before.reverse (folded figure.body)
      figure.lowered.after) :
    Unread figure := by
  obtain ⟨side, limit, tail, whole, isTail, opens, closes⟩ := Keywords.takes_limitExpression.1 takes
  rw [whole] at opens closes
  rcases Budget.takes_limited_or_attached limit isTail opens closes with
    ⟨body, rest, split, takes⟩ | ⟨unit, known, rfl⟩
  · have visible : (Budget.limited side.limit).isVisible = true := by cases side <;> decide
    obtain ⟨found, member, within⟩ := figure.lowered.exists_beginsWithin visible
      (same.trans (whole.trans split)) takes
    exact .refused within (refused_of_limit? member (noLimit side))
  · refine .attached limit known whole ?_
    by_contra plain
    simp only [not_or, ne_eq, not_not, not_exists, not_and] at plain
    obtain ⟨sign, notMillions, read⟩ := plain
    have isLetter : limit.sum.letter = [] ∨ limit.sum.letter = ['k'] :=
      (or_assoc.2 limit.sum.isLetter).resolve_right notMillions
    have parts : limit.text ++ unit.toList = limit.words ++ (limit.gap ++
        (limit.sum.digits ++ (limit.sum.letter ++ ([] ++ unit.toList)))) := by
      simp only [LimitText.text, Sum.text, sign, List.append_assoc, List.nil_append]
    have solid := of_areWords (by decide : areWords distanceWords = true) known
    have ended := startsWithWord_eq_false_of_solid closes solid.1 solid.2.1
    rw [parts] at opens whole
    have takes := Mileage.takes_limitWithUnit opens limit.announces limit.spaced limit.blank
      limit.sum.isNumber isLetter rfl known ended
    have visible : (Mileage.limitWithUnit side.limit).isVisible = true := by cases side <;> decide
    obtain ⟨found, member, -⟩ := @Stretch.exists_beginsWithin _ _ _ [] figure.lowered visible
      (by rw [List.append_nil, same, whole]) takes
    obtain ⟨first, isFirst⟩ := exists_find?_eq_some member
    have none := Mileage.withUnit?_of_isNothing noDistance side
    cases amount : first.amount? .left .leftScale with
    | none => exact read first isFirst amount
    | some value => simp [Mileage.withUnit?, isFirst, amount] at none

/-- What prices could be read from at a figure of two amounts is refused, or another expression
decides. -/
theorem unread_of_pair
    {pattern : Pattern}
    {body rest : Text}
    (pair : IsPair (folded figure.body))
    (noRange : Budget.HasNoRange (Years.read (lowercase phrase)).spans (lowercase phrase))
    (known : pattern = Budget.between ∨ pattern = Budget.bareRange)
    (split : figure.lowered.body = body ++ rest)
    (takes : pattern.Takes figure.lowered.before.reverse body (rest ++ figure.lowered.after)) :
    Unread figure := by
  have visible : pattern.isVisible = true := by rcases known with rfl | rfl <;> decide
  obtain ⟨found, member, within⟩ := figure.lowered.exists_beginsWithin visible split takes
  rw [Budget.HasNoRange] at noRange
  cases first : Budget.freeBetween? (Years.read (lowercase phrase)).spans (lowercase phrase) with
  | some deciding =>
      rw [first] at noRange
      exact .outranked pair first noRange
  | none =>
      rw [first] at noRange
      refine .refused within ?_
      rcases known with rfl | rfl
      · refine .between member ?_
        simpa using List.find?_eq_none.1 first found member
      · exact refused_of_bareRange? member (List.findSome?_eq_none_iff.1 noRange found member)

/-- A range whose first amount ends at the edge of a word is a bare range. -/
theorem unread_of_range
    {tail : Text}
    (noRange : Budget.HasNoRange (Years.read (lowercase phrase)).spans (lowercase phrase))
    (same : figure.lowered.body = folded figure.body)
    (range : RangeText)
    (isTail : IsDistanceTail tail)
    (whole : folded figure.body = range.text ++ tail)
    (closes : atBoundary ⟨range.text.reverse ++ figure.lowered.before.reverse,
      tail ++ figure.lowered.after⟩ = true) :
    Unread figure := by
  cases ends : atBoundary ⟨range.first.text.reverse, range.middle⟩ with
  | false => exact .looseRange range isTail whole ends
  | true =>
      exact unread_of_pair (.inr ⟨range, tail, isTail, whole⟩) noRange (.inr rfl)
        (same.trans whole) (Budget.takes_bareRange.2 ⟨range, rfl, ends, closes⟩)

/-- An amount between two others whose first amount ends in no comma is read as one. -/
theorem unread_of_between
    (noRange : Budget.HasNoRange (Years.read (lowercase phrase)).spans (lowercase phrase))
    (same : figure.lowered.body = folded figure.body)
    (takes : Keywords.betweenExpression.Takes figure.lowered.before.reverse (folded figure.body)
      figure.lowered.after) :
    Unread figure := by
  obtain ⟨range, whole, opens, closes⟩ := Keywords.takes_betweenExpression.1 takes
  cases ends : startsWithWord range.first.text.reverse with
  | false => exact .looseBetween range whole ends
  | true =>
      rw [whole] at opens closes
      exact @unread_of_pair _ _ _ _ [] (.inl ⟨range, whole⟩) noRange (.inl rfl)
        (by rw [List.append_nil, same, whole])
        (Budget.takes_between.2 ⟨range, rfl, ends, opens, closes⟩)

/-- In lower case a figure is taken by the same pattern, written in lower case. -/
theorem takes_lowered_ofMatch
    {form : Pattern}
    {found : Match}
    (member : found ∈ form.ignoreCase.findAll phrase)
    (written : form.isFolded = true)
    (within : form.isWithin isBasic = true)
    (settled : ¬(Stretch.ofMatch member).IsUnsettled) :
    (Stretch.ofMatch member).lowered.body = folded (Stretch.ofMatch member).body ∧
      form.Takes (Stretch.ofMatch member).lowered.before.reverse
        (folded (Stretch.ofMatch member).body) (Stretch.ofMatch member).lowered.after := by
  refine Stretch.takes_lowered written within ?_ settled
  simpa [Stretch.ofMatch] using takes_of_mem_findAll member

/-- Where nothing is bounded, there is a reason at every figure. -/
theorem unread_of_isFigure
    (noDistance : (Mileage.read (lowercase phrase)).isNothing = true)
    (noPrice : (openPrices (lowercase phrase)).isNothing = true)
    (isFigure : Keywords.IsFigure phrase figure) :
    Unread figure := by
  rw [openPrices, claimedSpans_eq noDistance, Budget.isNothing_read_iff] at noPrice
  obtain ⟨noLimit, noRange⟩ := noPrice
  by_cases odd : figure.IsUnsettled
  · exact .unsettled odd
  cases isFigure with
  | @expression pattern found known member =>
      have forms : pattern = Keywords.limitExpression.ignoreCase ∨
          pattern = Keywords.betweenExpression.ignoreCase ∨
          pattern = Keywords.currencyRange.ignoreCase ∨
          pattern = Keywords.scaledRange.ignoreCase := by
        simpa [Keywords.priceExpressions] using known
      rcases forms with rfl | rfl | rfl | rfl
      · obtain ⟨same, takes⟩ := takes_lowered_ofMatch member (by decide) (by decide) odd
        exact unread_of_limit noDistance noLimit same takes
      · obtain ⟨same, takes⟩ := takes_lowered_ofMatch member (by decide) (by decide) odd
        exact unread_of_between noRange same takes
      · obtain ⟨same, takes⟩ := takes_lowered_ofMatch member (by decide) (by decide) odd
        obtain ⟨range, whole, -, closes⟩ := Keywords.takes_currencyRange.1 takes
        exact unread_of_range noRange same range (.inl rfl) (by rw [List.append_nil, whole])
          (whole ▸ closes)
      · obtain ⟨same, takes⟩ := takes_lowered_ofMatch member (by decide) (by decide) odd
        obtain ⟨range, whole, -, -, -, closes⟩ := Keywords.takes_scaledRange.1 takes
        exact unread_of_range noRange same range (.inl rfl) (by rw [List.append_nil, whole])
          (whole ▸ closes)
  | @range found member price =>
      obtain ⟨same, takes⟩ :=
        @takes_lowered_ofMatch phrase Keywords.plainForm found member (by decide) (by decide) odd
      obtain ⟨range, tail, whole, -, -, closes, isTail, -⟩ := Keywords.takes_plainForm.1 takes
      exact unread_of_range noRange same range isTail whole closes

end Figures

/-- A phrase that loses a figure from its keywords has a bound of the prices or of the distances, or
else every figure of it is one that is not read. -/
theorem bounded_or_unread
    (phrase : String)
    (lost : Keywords.withoutFigures phrase.toList ≠ phrase.toList) :
    (ofPhrase phrase).filters.price.isUnbounded = false ∨
      (ofPhrase phrase).filters.odometer.isUnbounded = false ∨
      ((∃ figure, Keywords.IsFigure phrase.toList figure) ∧
        ∀ figure, Keywords.IsFigure phrase.toList figure → Unread figure) := by
  cases noPrice : (ofPhrase phrase).filters.price.isUnbounded with
  | false => exact .inl rfl
  | true =>
      cases noDistance : (ofPhrase phrase).filters.odometer.isUnbounded with
      | false => exact .inr (.inl rfl)
      | true =>
          refine .inr (.inr ⟨Keywords.exists_isFigure lost, fun figure isFigure => ?_⟩)
          exact unread_of_isFigure noDistance noPrice isFigure

/-- A range that is written as a price leaves the keywords, and it is one that is not read. -/
theorem exists_unread_figure :
    ∃ figure : Stretch "lamp $500-$900".toList,
      Keywords.IsFigure "lamp $500-$900".toList figure ∧ Unread figure := by
  obtain price | distance | ⟨⟨figure, isFigure⟩, unread⟩ :=
    bounded_or_unread "lamp $500-$900" (by decide +kernel)
  · exact absurd price (by decide +kernel)
  · exact absurd distance (by decide +kernel)
  · exact ⟨figure, isFigure, unread figure isFigure⟩

/-- Amounts that are too small for a price without a limit leave the keywords all the same if they
carry a sign, and no bound comes back for them. -/
theorem unbounded_of_lost :
    Keywords.withoutFigures "lamp $500-$900".toList ≠ "lamp $500-$900".toList ∧
      Text.collapse (Keywords.strip "lamp $500-$900".toList) ≠ [] ∧
      (ofPhrase "lamp $500-$900").filters.price.isUnbounded = true ∧
      (ofPhrase "lamp $500-$900").filters.odometer.isUnbounded = true := by
  decide +kernel

end Interpretation
end SearchPhrase
