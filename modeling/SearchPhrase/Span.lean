/-!
# Spans

Stretches of a text by the byte offsets of their ends, the second of which is not part of the
stretch, and names together with where they are mentioned.
-/

namespace SearchPhrase

/-- A stretch of a text, by byte offsets. -/
structure Span where
  /-- The offset of the first byte. -/
  start : Nat
  /-- The offset after the last byte. -/
  stop : Nat
deriving DecidableEq, Repr

namespace Span

/-- Whether two stretches share a byte. -/
def meets (first second : Span) : Bool :=
  decide (first.start < second.stop) && decide (second.start < first.stop)

theorem meets_iff {first second : Span} :
    first.meets second = true ↔ first.start < second.stop ∧ second.start < first.stop := by
  simp [meets]

/-- Whether a stretch shares a byte with any of several others. -/
def meetsAny (span : Span) (others : List Span) : Bool :=
  others.any fun other => other.meets span

theorem meetsAny_eq_false_iff {span : Span} {others : List Span} :
    span.meetsAny others = false ↔ ∀ other ∈ others, other.meets span = false := by
  simp [meetsAny]

end Span

/-- A name that a phrase mentions, as it is displayed, and where the mention stands. -/
structure Mention where
  /-- The displayed name. -/
  name : String
  /-- The stretch of the phrase. -/
  span : Span
deriving DecidableEq, Repr

end SearchPhrase
