import SearchPhrase.Proofs.Phrase.WholeFigures

/-!
# Readings are grounded in their text

Nothing is reported that the text does not say: each bound is what a whole figure within a claimed
stretch spells, and each claimed stretch holds such a figure for one of the bounds.
-/

namespace SearchPhrase

open Figure Pattern Text Unicode

namespace Reading

variable {α : Type} {text : Text} {IsFigure : Stretch text → Prop} {Spells : Text → α → Prop}
  {value : α}

/-- A figure within a stretch, as a whole, spells a value. -/
def SpelledIn
    (text : Text)
    (IsFigure : Stretch text → Prop)
    (Spells : Text → α → Prop)
    (value : α)
    (span : Span) :
    Prop :=
  ∃ figure : Stretch text, span.Covers figure.span ∧ figure.IsWholeFigure IsFigure ∧
    Spells figure.body value

/-- A part of an occurrence that is a whole figure lies within the stretch of that occurrence. -/
theorem spelledIn_of_mem
    {pattern : Pattern}
    {found : Match}
    {head body tail : Text}
    (member : found ∈ pattern.findAll text)
    (split : found.text = head ++ (body ++ tail))
    (isWholeFigure : ((Stretch.ofMatch member).part split).IsWholeFigure IsFigure)
    (spells : Spells body value) :
    SpelledIn text IsFigure Spells value found.span :=
  ⟨_, Stretch.covers_part_ofMatch member split, isWholeFigure, spells⟩

/-- What a reading says is what its text says. -/
structure IsGrounded
    [LT α]
    (text : Text)
    (IsFigure : Stretch text → Prop)
    (Spells : Text → α → Prop)
    (reading : Reading α) :
    Prop where
  /-- The least value does not lie above the greatest. -/
  ordered : ∀ low ∈ reading.bounds.lower, ∀ high ∈ reading.bounds.upper, ¬high < low
  /-- A claimed stretch is a part of the text in which there is something. -/
  visible : ∀ span ∈ reading.spans,
    ∃ stretch : Stretch text, stretch.span = span ∧ stretch.body ≠ []
  /-- At most two stretches are claimed. -/
  few : reading.spans.length ≤ 2
  /-- No stretch is claimed exactly when no bound is set. -/
  nil_iff : reading.spans = [] ↔ reading.bounds = .unbounded
  /-- A bound that is set is spelled in a claimed stretch. -/
  spelled : ∀ (side : Side) (value : α), side.bound? reading.bounds = some value →
    ∃ span ∈ reading.spans, SpelledIn text IsFigure Spells value span
  /-- A claimed stretch spells a bound that is set. -/
  supplies : ∀ span ∈ reading.spans, ∃ (side : Side) (value : α),
    side.bound? reading.bounds = some value ∧ SpelledIn text IsFigure Spells value span

variable [LT α] [DecidableLT α] {Source : Side → α → Span → Prop} {reading : Reading α}

omit [LT α] [DecidableLT α] in
/-- A reading of nothing has no bounds. -/
theorem bounds_eq_unbounded (nothing : reading.isNothing = true) :
    reading.bounds = .unbounded := by
  obtain ⟨⟨lower, upper⟩, spans⟩ := reading
  simpa [isNothing, Bounds.isUnbounded, Bounds.unbounded] using nothing

/-- Nothing is read where there are no sources. -/
theorem IsTraced.eq_unbounded_of_not_source
    (traced : reading.IsTraced Source)
    (none : ∀ side value span, ¬Source side value span) :
    reading.bounds = .unbounded := by
  have nothing : reading.spans = [] := by
    apply List.eq_nil_iff_forall_not_mem.2
    intro span member
    obtain ⟨side, value, source⟩ := traced.isBuilt.allowed member
    exact none side value span source
  exact bounds_eq_unbounded (traced.isBuilt.isNothing nothing)

/-- A reading is grounded if each source is a part of the text and spells its value. -/
theorem IsTraced.isGrounded
    (traced : reading.IsTraced Source)
    (visible : ∀ side value span, Source side value span →
      ∃ stretch : Stretch text, stretch.span = span ∧ stretch.body ≠ [])
    (spelled : ∀ side value span, Source side value span →
      SpelledIn text IsFigure Spells value span) :
    reading.IsGrounded text IsFigure Spells where
  ordered := Bounds.isReversed_eq_false_iff.1 traced.isBuilt.isReversed
  visible := by
    intro span member
    obtain ⟨side, value, source⟩ := traced.isBuilt.allowed member
    exact visible side value span source
  few := Nat.le_trans traced.isBuilt.length_spans_le reading.bounds.count_le
  nil_iff := by
    constructor
    · intro nothing
      exact bounds_eq_unbounded (traced.isBuilt.isNothing nothing)
    · intro unbounded
      apply List.eq_nil_iff_forall_not_mem.2
      intro span member
      obtain ⟨side, value, set, -⟩ := traced.suppliesAll span member
      rw [unbounded] at set
      cases side <;> cases set
  spelled := by
    intro side value set
    obtain ⟨span, member, source⟩ := traced.exists_source set
    exact ⟨span, member, spelled side value span source⟩
  supplies := by
    intro span member
    obtain ⟨side, value, set, source⟩ := traced.suppliesAll span member
    exact ⟨side, value, set, spelled side value span source⟩

/-- Occurrences of patterns are parts of the text in which there is something. -/
theorem visible_of_mem
    {pattern : Pattern}
    {found : Match}
    (member : found ∈ pattern.findAll text) :
    ∃ stretch : Stretch text, stretch.span = found.span ∧ stretch.body ≠ [] :=
  ⟨Stretch.ofMatch member, Stretch.span_ofMatch member, (whole_of_mem_findAll member).2⟩

end Reading

open Reading

variable {text : Text}

/-- A source of years is a part of the text that spells the year. -/
theorem Years.Source.spelledIn
    {side : Side}
    {value : UInt32}
    {span : Span}
    (source : Source text side value span) :
    SpelledIn text IsFigure Spells value span := by
  obtain ⟨token, covers, spells, apart, -⟩ := source.exists_token
  have isFigure : IsFigure token := ⟨spells.1, apart.stops⟩
  exact ⟨token, covers, isFigure.isWholeFigure apart.fresh, spells⟩

theorem Years.Source.visible
    {side : Side}
    {value : UInt32}
    {span : Span}
    (source : Source text side value span) :
    ∃ stretch : Stretch text, stretch.span = span ∧ stretch.body ≠ [] := by
  cases source with
  | led member _ => exact visible_of_mem member
  | pair member _ _ _ => exact visible_of_mem member
  | lone member _ _ => exact visible_of_mem member

/-- A source of distances is a part of the text that spells the distance. -/
theorem Mileage.Source.spelledIn
    {side : Side}
    {value : UInt64}
    {span : Span}
    (source : Source text side value span) :
    SpelledIn text IsFigure Amount.Spells value span := by
  cases source with
  | @orBelow found value _ member amount _ =>
      obtain ⟨form⟩ := nonempty_orBelowForm member
      have split : found.text = [] ++ ((Literal.ofThousands form.isNumber).text ++ form.rest) := by
        simp [form.whole, Literal.text, Literal.ofThousands]
      refine spelledIn_of_mem member split ?_ ⟨_, rfl, form.value.symm.trans amount⟩
      exact form.isWholeFigure member (List.append_nil _) rfl rfl
  | @withUnit found value member amount =>
      obtain ⟨form⟩ := nonempty_unitForm member
      have split : found.text = (form.words ++ form.gap) ++
          (form.literal.text ++ (form.gap'' ++ form.unit.toList)) := by
        simp [form.whole, Literal.text, UnitForm.literal]
      refine spelledIn_of_mem member split ?_ ⟨_, rfl, form.value.symm.trans amount⟩
      exact form.isWholeFigure rfl rfl (List.append_assoc _ _ _)
  | @inThousands found value member amount _ =>
      obtain ⟨form⟩ := nonempty_thousandsForm member
      have split : found.text = (form.words ++ form.gap) ++
          ((Literal.ofThousands form.isNumber).text ++ []) := by
        simp [form.whole, Literal.text, Literal.ofThousands]
      refine spelledIn_of_mem member split ?_ ⟨_, rfl, form.value.symm.trans amount⟩
      exact form.isWholeFigure rfl rfl rfl

theorem Mileage.Source.visible
    {side : Side}
    {value : UInt64}
    {span : Span}
    (source : Source text side value span) :
    ∃ stretch : Stretch text, stretch.span = span ∧ stretch.body ≠ [] := by
  cases source with
  | orBelow _ member _ _ => exact visible_of_mem member
  | withUnit member _ => exact visible_of_mem member
  | inThousands member _ _ => exact visible_of_mem member

/-- An amount of an occurrence that has a whole figure is spelled in it. -/
theorem Budget.spelledIn_of_stands
    {pattern : Pattern}
    {found : Match}
    {head tail : Text}
    {sum : Sum}
    {value : UInt64}
    (member : found ∈ pattern.findAll text)
    (split : found.text = head ++ (sum.text ++ tail))
    (stands : Stands text (found.before.reverse ++ head) sum (tail ++ found.after))
    (amount : sum.value? = some value) :
    SpelledIn text IsFigure Amount.Spells value found.span := by
  obtain ⟨figure, before, body, -, isWholeFigure⟩ := stands
  have split : found.text = (head ++ sum.sign) ++ (sum.literal.text ++ tail) := by
    rw [split, sum.text_eq_append]
    simp only [List.append_assoc]
  have same : figure = (Stretch.ofMatch member).part split := by
    apply Stretch.eq_of_body_eq _ body
    rw [before, List.append_assoc]
    rfl
  exact spelledIn_of_mem member split (same ▸ isWholeFigure) ⟨sum.literal, rfl, amount⟩

/-- A source of prices is a part of the text that spells the price. -/
theorem Budget.Source.spelledIn
    {claimed : List Span}
    {side : Side}
    {value : UInt64}
    {span : Span}
    (source : Source claimed text side value span) :
    SpelledIn text IsFigure Amount.Spells value span := by
  cases source with
  | @limit found _ member _ amount =>
      obtain ⟨form⟩ := nonempty_limitForm member
      have split : found.text = (form.words ++ form.gap) ++ (form.sum.text ++ []) := by
        simp [form.whole]
      exact spelledIn_of_stands member split (form.stands member) (form.value.symm.trans amount)
  | @between found first second member _ amounts =>
      obtain ⟨form⟩ := nonempty_betweenForm member
      obtain ⟨amount, amount'⟩ := bothAmounts?_eq_some amounts
      cases side with
      | lower =>
          have split : found.text = ("between".toList ++ form.gap) ++ (form.first.text ++
              (form.gap' ++ ("and".toList ++ (form.gap'' ++ form.second.text)))) := by
            simp only [form.whole, List.append_assoc]
          refine spelledIn_of_stands member split ?_ (form.value.symm.trans amount)
          simpa only [List.append_assoc] using form.stands_first member
      | upper =>
          have split : found.text = form.opening ++ (form.second.text ++ []) := by
            rw [List.append_nil, form.whole_opening]
          exact spelledIn_of_stands member split (form.stands_second member)
            (form.value'.symm.trans amount')
  | @range found first second member _ amounts _ begins _ =>
      obtain ⟨form⟩ := nonempty_rangeForm member
      obtain ⟨amount, amount'⟩ := bothAmounts?_eq_some amounts
      rcases choose_min_max side first second with same | same
      · have split : found.text = [] ++ (form.first.text ++
            (form.gap ++ (form.mark ++ (form.gap' ++ form.second.text)))) := form.whole
        rw [same]
        refine spelledIn_of_stands member split ?_ (form.value.symm.trans amount)
        simpa only [List.append_assoc, List.append_nil] using form.stands_first member begins
      · have split : found.text = form.opening ++ (form.second.text ++ []) := by
          rw [List.append_nil, form.whole_opening]
        rw [same]
        exact spelledIn_of_stands member split (form.stands_second member)
          (form.value'.symm.trans amount')

theorem Budget.Source.visible
    {claimed : List Span}
    {side : Side}
    {value : UInt64}
    {span : Span}
    (source : Source claimed text side value span) :
    ∃ stretch : Stretch text, stretch.span = span ∧ stretch.body ≠ [] := by
  cases source with
  | limit member _ _ => exact visible_of_mem member
  | between member _ _ => exact visible_of_mem member
  | range member _ _ _ _ _ => exact visible_of_mem member

namespace Interpretation

/-- Years, distances and prices are grounded in every text, years lie in the twentieth or
twenty-first century, and prices meet nothing that was claimed before. -/
theorem isGrounded_readings (text : Text) (claimed : List Span) :
    (Years.read text).IsGrounded text Years.IsFigure Years.Spells ∧
      (∀ (side : Side) (value : UInt32), side.bound? (Years.read text).bounds = some value →
        1900 ≤ value ∧ value ≤ 2099) ∧
      (Mileage.read text).IsGrounded text Mileage.IsFigure Amount.Spells ∧
      (Budget.read claimed text).IsGrounded text Budget.IsFigure Amount.Spells ∧
      ∀ span ∈ (Budget.read claimed text).spans, ∀ other ∈ claimed, other.meets span = false := by
  have years : (Years.read text).IsGrounded text Years.IsFigure Years.Spells :=
    (Years.isTraced_read text).isGrounded (fun _ _ _ source => source.visible)
      fun _ _ _ source => source.spelledIn
  have distances : (Mileage.read text).IsGrounded text Mileage.IsFigure Amount.Spells :=
    (Mileage.isTraced_read text).isGrounded (fun _ _ _ source => source.visible)
      fun _ _ _ source => source.spelledIn
  have prices : (Budget.read claimed text).IsGrounded text Budget.IsFigure Amount.Spells :=
    (Budget.isTraced_read claimed text).isGrounded (fun _ _ _ source => source.visible)
      fun _ _ _ source => source.spelledIn
  refine ⟨years, ?_, distances, prices, ?_⟩
  · intro side value set
    obtain ⟨span, -, figure, -, -, spells⟩ := years.spelled side value set
    exact spells.bounds
  · intro span member
    exact Span.meetsAny_eq_false_iff.1 ((Budget.isBuilt_read claimed text).allowed member)

end Interpretation
end SearchPhrase
