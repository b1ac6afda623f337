import SearchPhrase.Interpretation
import SearchPhrase.Pattern.Lemmas

/-!
# What readings claim

A reading comes about by claiming one stretch after another, for one bound or for both.
-/

namespace SearchPhrase

namespace Bounds

variable {α : Type}

/-- How many ends of a range are set. -/
def count (bounds : Bounds α) : Nat :=
  bounds.lower.toList.length + bounds.upper.toList.length

theorem count_le (bounds : Bounds α) : bounds.count ≤ 2 := by
  rcases bounds with ⟨_ | low, _ | high⟩ <;> simp [count]

variable [LT α] [DecidableLT α] {bounds result : Bounds α} {value : α}

theorem count_of_setLower? (set : bounds.setLower? value = some result) :
    result.count = bounds.count + 1 := by
  obtain ⟨unset, -, rfl⟩ := setLower?_eq_some_iff.1 set
  simp [count, unset, Nat.add_comm]

theorem count_of_setUpper? (set : bounds.setUpper? value = some result) :
    result.count = bounds.count + 1 := by
  obtain ⟨unset, -, rfl⟩ := setUpper?_eq_some_iff.1 set
  simp [count, unset]

end Bounds

namespace Reading

variable {α : Type} [LT α] [DecidableLT α]

/-- A reading that comes about by claiming allowed stretches one after another. -/
inductive IsBuilt (Allowed : Span → Prop) : Reading α → Prop where
  /-- Nothing has been claimed. -/
  | nothing : IsBuilt Allowed nothing
  /-- A stretch has been claimed for a lower bound. -/
  | claimLower {reading : Reading α} {span : Span} (built : IsBuilt Allowed reading)
      (allowed : Allowed span) (value : α) : IsBuilt Allowed (reading.claimLower value span)
  /-- A stretch has been claimed for an upper bound. -/
  | claimUpper {reading : Reading α} {span : Span} (built : IsBuilt Allowed reading)
      (allowed : Allowed span) (value : α) : IsBuilt Allowed (reading.claimUpper value span)
  /-- A stretch has been claimed for both bounds. -/
  | claimRange {reading : Reading α} {span : Span} (built : IsBuilt Allowed reading)
      (allowed : Allowed span) (low high : α) : IsBuilt Allowed (reading.claimRange low high span)

variable {Allowed : Span → Prop} {reading : Reading α}

/-- The range of a reading is never reversed. -/
theorem IsBuilt.isReversed (built : reading.IsBuilt Allowed) :
    reading.bounds.isReversed = false := by
  induction built with
  | nothing => rfl
  | claimLower _ _ value ih => exact isReversed_claimLower ih value _
  | claimUpper _ _ value ih => exact isReversed_claimUpper ih value _
  | claimRange _ _ low high ih => exact isReversed_claimRange ih low high _

/-- What is allowed by one measure may be allowed by a wider one too. -/
theorem IsBuilt.mono
    {Wider : Span → Prop}
    (built : reading.IsBuilt Allowed)
    (wider : ∀ span, Allowed span → Wider span) :
    reading.IsBuilt Wider := by
  induction built with
  | nothing => exact .nothing
  | claimLower _ allowed value ih => exact ih.claimLower (wider _ allowed) value
  | claimUpper _ allowed value ih => exact ih.claimUpper (wider _ allowed) value
  | claimRange _ allowed low high ih => exact ih.claimRange (wider _ allowed) low high

theorem isNothing_claimUpper
    {value : α}
    {span : Span}
    (known : reading.spans = [] → reading.isNothing = true)
    (empty : (reading.claimUpper value span).spans = []) :
    (reading.claimUpper value span).isNothing = true := by
  cases set : reading.bounds.setUpper? value with
  | none =>
      simp only [claimUpper, set] at empty ⊢
      exact known empty
  | some bounds => simp [claimUpper, set] at empty

/-- A reading without claimed stretches has no bounds. -/
theorem IsBuilt.isNothing
    (built : reading.IsBuilt Allowed)
    (empty : reading.spans = []) :
    reading.isNothing = true := by
  induction built with
  | nothing => rfl
  | @claimLower reading _ _ _ value ih =>
      cases set : reading.bounds.setLower? value with
      | none =>
          simp only [Reading.claimLower, set] at empty ⊢
          exact ih empty
      | some bounds => simp [Reading.claimLower, set] at empty
  | claimUpper _ _ value ih => exact isNothing_claimUpper ih empty
  | @claimRange reading _ _ _ low high ih =>
      cases set : reading.bounds.setLower? low with
      | none =>
          simp only [Reading.claimRange, set] at empty ⊢
          exact isNothing_claimUpper ih empty
      | some bounds => simp [Reading.claimRange, set] at empty

theorem mem_spans_claimLower
    {value : α}
    {span other : Span}
    (member : other ∈ (reading.claimLower value span).spans) :
    other ∈ reading.spans ∨ other = span := by
  unfold claimLower at member
  split at member
  · simpa using member
  · exact .inl member

theorem mem_spans_claimUpper
    {value : α}
    {span other : Span}
    (member : other ∈ (reading.claimUpper value span).spans) :
    other ∈ reading.spans ∨ other = span := by
  unfold claimUpper at member
  split at member
  · simpa using member
  · exact .inl member

theorem mem_spans_claimRange
    {low high : α}
    {span other : Span}
    (member : other ∈ (reading.claimRange low high span).spans) :
    other ∈ reading.spans ∨ other = span := by
  unfold claimRange at member
  split at member
  · simpa using member
  · exact mem_spans_claimUpper member

/-- Only allowed stretches are claimed. -/
theorem IsBuilt.allowed
    {span : Span}
    (built : reading.IsBuilt Allowed)
    (member : span ∈ reading.spans) :
    Allowed span := by
  induction built with
  | nothing => exact absurd member List.not_mem_nil
  | claimLower _ allowed _ ih =>
      rcases mem_spans_claimLower member with known | rfl
      · exact ih known
      · exact allowed
  | claimUpper _ allowed _ ih =>
      rcases mem_spans_claimUpper member with known | rfl
      · exact ih known
      · exact allowed
  | claimRange _ allowed _ _ ih =>
      rcases mem_spans_claimRange member with known | rfl
      · exact ih known
      · exact allowed

theorem length_spans_claimUpper_le
    {value : α}
    {span : Span}
    (fewer : reading.spans.length ≤ reading.bounds.count) :
    (reading.claimUpper value span).spans.length ≤
      (reading.claimUpper value span).bounds.count := by
  unfold claimUpper
  split
  · next bounds set =>
      simpa [Bounds.count_of_setUpper? set] using fewer
  · exact fewer

/-- No more stretches are claimed than bounds are set. -/
theorem IsBuilt.length_spans_le (built : reading.IsBuilt Allowed) :
    reading.spans.length ≤ reading.bounds.count := by
  induction built with
  | nothing => exact Nat.zero_le _
  | claimLower _ _ value ih =>
      unfold Reading.claimLower
      split
      · next bounds set =>
          simpa [Bounds.count_of_setLower? set] using ih
      · exact ih
  | claimUpper _ _ value ih => exact length_spans_claimUpper_le ih
  | claimRange _ _ low high ih =>
      unfold Reading.claimRange
      split
      · next bounds set =>
          have more := Bounds.count_of_setLower? set
          have most : bounds.count ≤ ((bounds.setUpper? high).getD bounds).count := by
            cases upperSet : bounds.setUpper? high with
            | none => exact Nat.le_refl _
            | some result =>
                have more := Bounds.count_of_setUpper? upperSet
                rw [Option.getD_some]
                omega
          simp only [List.length_append, List.length_singleton]
          omega
      · exact length_spans_claimUpper_le ih

end Reading

namespace Pattern

/-- A stretch that an occurrence of one of several patterns takes up. -/
def OccurAt (patterns : List Pattern) (text : Text) (span : Span) : Prop :=
  ∃ pattern ∈ patterns, ∃ found ∈ pattern.findAll text, found.span = span

theorem mem_findAll_of_find?
    {pattern : Pattern}
    {text : Text}
    {found : Match}
    (first : pattern.find? text = some found) :
    found ∈ pattern.findAll text :=
  List.mem_of_head? first

theorem occurAt_of_mem
    {patterns : List Pattern}
    {pattern : Pattern}
    {text : Text}
    {found : Match}
    (known : pattern ∈ patterns)
    (member : found ∈ pattern.findAll text) :
    OccurAt patterns text found.span :=
  ⟨pattern, known, found, member, rfl⟩

end Pattern

namespace Years

/-- The patterns that years are read by. -/
def patterns : List Pattern :=
  [afterYear, beforeYear, yearPair, loneYear]

end Years

namespace Mileage

open Figure

/-- The patterns that distances are read by. -/
def patterns : List Pattern :=
  [orBelow, limitWithUnit atMost, limitWithUnit atLeast, limitInThousands atMost,
    limitInThousands atLeast]

end Mileage
end SearchPhrase
