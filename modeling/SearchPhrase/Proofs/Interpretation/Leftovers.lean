import SearchPhrase.Interpretation
import SearchPhrase.Proofs.Phrase.WholeFigures

/-!
# Prices before a unit of distance

Each price is the value of an amount in a stretch that is claimed for prices.  A unit of distance
may follow that amount in two cases only: it ends an amount between two others, or it is a limit
that the distances have left over.
-/

namespace SearchPhrase

namespace Budget

open Figure Pattern Text Unicode

variable {claimed : List Span} {text : Text} {side : Side} {value : UInt64} {span : Span}

/-- How an amount that stands before a unit of distance comes to set a price. -/
inductive Unguarded (text : Text) (side : Side) (sum : Sum) (value : UInt64) (span : Span) :
    Prop where
  /-- It is the second of two amounts after "between". -/
  | between {found : Match} (member : found ∈ between.findAll text) (place : found.span = span)
      (upper : side = .upper)
  /-- It is the amount of a limit that the distances have left over. -/
  | limit {found : Match} (member : found ∈ (limited side.limit).findAll text)
      (place : found.span = span) (leftover : Mileage.Leftover text side found sum value)

/-- An amount in a stretch that is claimed, and what follows if a unit stands after it. -/
structure Backing (text : Text) (side : Side) (value : UInt64) (span : Span) where
  /-- Where the amount stands. -/
  stretch : Stretch text
  /-- The amount. -/
  sum : Sum
  /-- The stretch holds the amount and nothing else. -/
  body : stretch.body = sum.text
  /-- The amount is the price. -/
  amount : sum.value? = some value
  /-- The amount lies in the claimed stretch. -/
  within : span.start ≤ stretch.span.start ∧ stretch.span.stop ≤ span.stop
  /-- Its number is a whole figure. -/
  stands : Stands text stretch.before sum stretch.after
  /-- A unit stands after the amount only if there is nothing to guard it. -/
  guarded : startsWithUnit stretch.after = true → Unguarded text side sum value span

theorem nonempty_backing
    {pattern : Pattern}
    {found : Match}
    {head tail : Text}
    {sum : Sum}
    (member : found ∈ pattern.findAll text)
    (whole : found.text = head ++ (sum.text ++ tail))
    (stands : Stands text (found.before.reverse ++ head) sum (tail ++ found.after))
    (amount : sum.value? = some value)
    (guarded : startsWithUnit (tail ++ found.after) = true →
      Unguarded text side sum value found.span) :
    Nonempty (Backing text side value found.span) := by
  have within := Stretch.covers_part_ofMatch member whole
  exact ⟨_, sum, rfl, amount, within, stands, guarded⟩

section Occurrences

variable {found : Match} {first second : UInt64}

theorem nonempty_backing_of_limit
    (member : found ∈ (limited side.limit).findAll text)
    (free : found.span.meetsAny (Mileage.read text).spans = false)
    (amount : found.amount? .left .leftScale = some value) :
    Nonempty (Backing text side value found.span) := by
  obtain ⟨form⟩ := nonempty_limitForm member
  rw [form.value] at amount
  have whole : found.text = form.words ++ form.gap ++ (form.sum.text ++ []) := by
    rw [form.whole, List.append_nil, List.append_assoc]
  refine nonempty_backing member whole (form.stands member) amount fun unit => ?_
  exact .limit member rfl (Mileage.leftover_of_limited member form free amount unit)

theorem nonempty_backing_of_between
    (member : found ∈ between.findAll text)
    (amounts : bothAmounts? found = some (first, second))
    (side : Side) :
    Nonempty (Backing text side (side.choose first second) found.span) := by
  obtain ⟨form⟩ := nonempty_betweenForm member
  obtain ⟨low, high⟩ := bothAmounts?_eq_some amounts
  rw [form.value] at low
  rw [form.value'] at high
  cases side with
  | lower =>
      -- The next word after the first amount is "and".
      have whole : found.text = "between".toList ++ form.gap ++ (form.first.text ++
          (form.gap' ++ 'a' :: ("nd".toList ++ (form.gap'' ++ form.second.text)))) := by
        rw [form.whole]
        simp
      have stands := form.stands_first member
      refine nonempty_backing member whole (by simpa using stands) low fun unit => ?_
      rw [List.append_assoc, List.cons_append,
        startsWithUnit_append_cons form.blank' (by decide) (by decide)] at unit
      cases unit
  | upper =>
      have whole : found.text = form.opening ++ (form.second.text ++ []) := by
        rw [List.append_nil, form.whole_opening]
      exact nonempty_backing member whole (form.stands_second member) high fun _ =>
        .between member rfl rfl

/-- No unit follows either amount of a bare range that passes for a price. -/
theorem nonempty_backing_of_bareRange
    (member : found ∈ bareRange.findAll text)
    (amounts : bothAmounts? found = some (first, second))
    (begins : found.beginsToken = true)
    (unitless : found.precedesDistance = false)
    (known : value = first ∨ value = second) :
    Nonempty (Backing text side value found.span) := by
  obtain ⟨form⟩ := nonempty_rangeForm member
  obtain ⟨low, high⟩ := bothAmounts?_eq_some amounts
  rw [form.value] at low
  rw [form.value'] at high
  rcases known with rfl | rfl
  · have whole : found.text = [] ++ (form.first.text ++
        (form.gap ++ (form.mark ++ (form.gap' ++ form.second.text)))) := form.whole
    have marked : startsWithUnit (form.gap ++ (form.mark ++ (form.gap' ++ form.second.text)) ++
        found.after) = false := by
      rcases form.known with dash | word
      · simpa [dash] using startsWithUnit_append_cons (c := '-') form.blank (by decide) (by decide)
      · simpa [word] using startsWithUnit_append_cons (c := 't') form.blank (by decide) (by decide)
    have stands := form.stands_first member begins
    refine nonempty_backing member whole (by simpa using stands) low fun unit => ?_
    rw [marked] at unit
    cases unit
  · have whole : found.text = form.opening ++ (form.second.text ++ []) := by
      rw [List.append_nil, form.whole_opening]
    refine nonempty_backing member whole (form.stands_second member) high fun unit => ?_
    rw [List.nil_append, ← precedesDistance_eq, unitless] at unit
    cases unit

end Occurrences

/-- Each price is an amount in the stretch that is claimed for it. -/
theorem Source.nonempty_backing
    (source : Source claimed text side value span)
    (known : (Mileage.read text).spans ⊆ claimed) :
    Nonempty (Backing text side value span) := by
  cases source with
  | limit member free amount =>
      rw [Span.meetsAny_eq_false_iff] at free
      apply nonempty_backing_of_limit member _ amount
      exact Span.meetsAny_eq_false_iff.2 fun other claimed => free other (known claimed)
  | between member _ amounts => exact nonempty_backing_of_between member amounts side
  | range member _ amounts _ begins unitless =>
      exact nonempty_backing_of_bareRange member amounts begins unitless (choose_min_max side _ _)

end Budget

namespace Interpretation

open Figure Unicode

/-- Each price is an amount in a stretch that is claimed for prices.  Where a unit of distance
follows the amount, it is the second one after "between" or that of a limit that the distances have
left over. -/
theorem exists_backing_of_price
    (phrase : String)
    (side : Side)
    (value : UInt64)
    (set : side.bound? (ofPhrase phrase).filters.price = some value) :
    ∃ span ∈ (openPrices (lowercase phrase.toList)).spans,
      Nonempty (Budget.Backing (lowercase phrase.toList) side value span) := by
  obtain ⟨span, member, source⟩ := (Budget.isTraced_read _ _).exists_source set
  exact ⟨span, member, source.nonempty_backing (List.subset_append_right _ _)⟩

/-- A limit that would reverse the distances becomes a price, in spite of its unit. -/
theorem exists_backing_of_price_reversed :
    ∃ span ∈ (openPrices (lowercase "Under 100k km over 200k km".toList)).spans,
      Nonempty (Budget.Backing (lowercase "Under 100k km over 200k km".toList) .lower 200000
        span) :=
  exists_backing_of_price "Under 100k km over 200k km" .lower 200000 (by decide +kernel)

/-- A price may be taken from an amount that stands before a unit of distance. -/
theorem price_of_leftover :
    (ofPhrase "Under 100k km over 200k km").filters.price = { lower := some 200000 } ∧
      ∃ found ∈ (Budget.limited atLeast).findAll (lowercase "Under 100k km over 200k km".toList),
        (openPrices (lowercase "Under 100k km over 200k km".toList)).spans = [found.span] ∧
          found.amount? .left .leftScale = some 200000 ∧ found.precedesDistance = true := by
  decide +kernel

end Interpretation
end SearchPhrase
