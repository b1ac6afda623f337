import SearchPhrase.Bounds
import SearchPhrase.Span

/-!
# Readings

What has been read off a phrase about one quantity: the bounds found so far and the stretches of
text that they were taken from.  A stretch is claimed only together with a bound that it supplies.
-/

namespace SearchPhrase

/-- The bounds of a quantity and the stretches of text that supply them, in the order claimed. -/
structure Reading (α : Type) where
  /-- The bounds found. -/
  bounds : Bounds α := {}
  /-- The stretches that supply them. -/
  spans : List Span := []
deriving DecidableEq

namespace Reading

variable {α : Type} [LT α] [DecidableLT α]

/-- The reading of a phrase that says nothing. -/
def nothing : Reading α :=
  {}

/-- Whether no bound has been found. -/
def isNothing (reading : Reading α) : Bool :=
  reading.bounds.isUnbounded

/-- Claim a stretch for a lower bound, if that bound can be set. -/
def claimLower (reading : Reading α) (value : α) (span : Span) : Reading α :=
  match reading.bounds.setLower? value with
  | some bounds => ⟨bounds, reading.spans ++ [span]⟩
  | none => reading

/-- Claim a stretch for an upper bound, if that bound can be set. -/
def claimUpper (reading : Reading α) (value : α) (span : Span) : Reading α :=
  match reading.bounds.setUpper? value with
  | some bounds => ⟨bounds, reading.spans ++ [span]⟩
  | none => reading

/-- Claim a stretch for both bounds, of which either may turn out to be set already; the stretch is
claimed if it supplies at least one. -/
def claimRange (reading : Reading α) (low high : α) (span : Span) : Reading α :=
  match reading.bounds.setLower? low with
  | some bounds => ⟨(bounds.setUpper? high).getD bounds, reading.spans ++ [span]⟩
  | none => reading.claimUpper high span

theorem isReversed_claimLower {reading : Reading α} (ordered : reading.bounds.isReversed = false)
    (value : α) (span : Span) : (reading.claimLower value span).bounds.isReversed = false := by
  unfold claimLower
  split
  · exact Bounds.isReversed_of_setLower? ‹_›
  · exact ordered

theorem isReversed_claimUpper {reading : Reading α} (ordered : reading.bounds.isReversed = false)
    (value : α) (span : Span) : (reading.claimUpper value span).bounds.isReversed = false := by
  unfold claimUpper
  split
  · exact Bounds.isReversed_of_setUpper? ‹_›
  · exact ordered

theorem isReversed_claimRange {reading : Reading α} (ordered : reading.bounds.isReversed = false)
    (low high : α) (span : Span) :
    (reading.claimRange low high span).bounds.isReversed = false := by
  unfold claimRange
  split
  · next bounds lowerSet =>
      cases upperSet : bounds.setUpper? high with
      | none => simpa using Bounds.isReversed_of_setLower? lowerSet
      | some result => simpa using Bounds.isReversed_of_setUpper? upperSet
  · exact isReversed_claimUpper ordered high span

end Reading
end SearchPhrase
