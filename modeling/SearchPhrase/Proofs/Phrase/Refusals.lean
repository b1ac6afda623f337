import SearchPhrase.Proofs.Phrase.Claims
import SearchPhrase.Proofs.Phrase.Sources

/-!
# Where no bound comes from

A claim that is made of an empty reading always supplies a bound.  So a reading without bounds has
claimed nothing, and every rule that could have claimed first has found nothing to claim.
-/

namespace SearchPhrase

open Figure

namespace Reading

theorem isNothing_iff
    {α : Type}
    {reading : Reading α} :
    reading.isNothing = true ↔ reading.bounds.lower = none ∧ reading.bounds.upper = none := by
  simp [isNothing, Bounds.isUnbounded]

variable {α : Type} [LT α] [DecidableLT α] {reading : Reading α} {value low high : α} {span : Span}

/-- A claim that leaves a reading without bounds has changed nothing. -/
theorem claimUpper_eq_of_isNothing
    (nothing : (reading.claimUpper value span).isNothing = true) :
    reading.claimUpper value span = reading := by
  unfold claimUpper at nothing ⊢
  split
  · next bounds set =>
      obtain ⟨-, -, rfl⟩ := Bounds.setUpper?_eq_some_iff.1 set
      rw [set] at nothing
      simp [isNothing_iff] at nothing
  · rfl

theorem claimLower_eq_of_isNothing
    (nothing : (reading.claimLower value span).isNothing = true) :
    reading.claimLower value span = reading := by
  unfold claimLower at nothing ⊢
  split
  · next bounds set =>
      obtain ⟨-, -, rfl⟩ := Bounds.setLower?_eq_some_iff.1 set
      rw [set] at nothing
      simp [isNothing_iff] at nothing
  · rfl

theorem claimRange_eq_of_isNothing
    (nothing : (reading.claimRange low high span).isNothing = true) :
    reading.claimRange low high span = reading := by
  unfold claimRange at nothing ⊢
  split
  · next bounds set =>
      -- The lower bound stays, whether the upper bound can be set or not.
      obtain ⟨-, -, rfl⟩ := Bounds.setLower?_eq_some_iff.1 set
      rw [set] at nothing
      cases upperSet : Bounds.setUpper? { reading.bounds with lower := some low } high with
      | none => simp [upperSet, isNothing_iff] at nothing
      | some result =>
          obtain ⟨-, -, rfl⟩ := Bounds.setUpper?_eq_some_iff.1 upperSet
          simp [upperSet, isNothing_iff] at nothing
  · next unset =>
      rw [unset] at nothing
      exact claimUpper_eq_of_isNothing nothing

/-- A range that is claimed of an empty reading supplies a bound. -/
theorem isNothing_claimRange
    (nothing : reading.isNothing = true) :
    (reading.claimRange low high span).isNothing = false := by
  obtain ⟨lower, upper⟩ := isNothing_iff.1 nothing
  cases after : (reading.claimRange low high span).isNothing with
  | false => rfl
  | true =>
      have kept := claimRange_eq_of_isNothing after
      have set : reading.bounds.setLower? low = some { reading.bounds with lower := some low } :=
        Bounds.setLower?_eq_some_iff.2 ⟨lower, by simp [upper], rfl⟩
      have grown := congrArg (List.length ∘ Reading.spans) kept
      simp [claimRange, set] at grown

/-- A reading without bounds has claimed nothing. -/
theorem IsBuilt.spans_eq_nil
    {Allowed : Span → Prop}
    (built : reading.IsBuilt Allowed)
    (nothing : reading.isNothing = true) :
    reading.spans = [] := by
  induction built with
  | nothing => rfl
  | claimLower _ _ value ih =>
      have same := claimLower_eq_of_isNothing nothing
      rw [same] at nothing ⊢
      exact ih nothing
  | claimUpper _ _ value ih =>
      have same := claimUpper_eq_of_isNothing nothing
      rw [same] at nothing ⊢
      exact ih nothing
  | claimRange _ _ low high ih =>
      have same := claimRange_eq_of_isNothing nothing
      rw [same] at nothing ⊢
      exact ih nothing

end Reading

namespace Mileage

open Reading

/-- Without a distance, no limit with a unit has been read. -/
theorem withUnit?_of_isNothing
    {text : Text}
    (nothing : (read text).isNothing = true)
    (side : Side) :
    withUnit? side.limit text = none := by
  obtain ⟨lower, upper⟩ := isNothing_iff.1 nothing
  have unclaimed := (isBuilt_read text).spans_eq_nil nothing
  cases known : withUnit? side.limit text with
  | none => rfl
  | some found =>
      rcases mem_or_refuses known with claimed | refused
      · rw [unclaimed] at claimed
        exact absurd claimed List.not_mem_nil
      · cases refused with
        | @taken high set =>
            -- What stands before "or below" stays the greatest distance.
            have kept :
                (readWithUnit text (readOrBelow text .nothing)).bounds.upper = some high := by
              rw [readWithUnit, upper_claimLower?]
              cases withUnit? atMost text with
              | none => exact set
              | some found => simp [claimUpper?, claimUpper, Bounds.setUpper?, set]
            rw [read, readBare_of_upper kept, kept] at upper
            cases upper
        | reversed set _ =>
            rw [set] at upper
            cases upper

end Mileage

namespace Budget

open Pattern Reading

variable {claimed : List Span} {text : Text} {found : Match}

/-- Nothing has been read before the ranges exactly when there is no limit to read. -/
theorem isNothing_readAtLeast_iff :
    (readAtLeast claimed text (readAtMost claimed text .nothing)).isNothing = true ↔
      ∀ side : Side, limit? side.limit claimed text = none := by
  have sides : (∀ side : Side, limit? side.limit claimed text = none) ↔
      limit? atLeast claimed text = none ∧ limit? atMost claimed text = none := by
    constructor
    · exact fun none => ⟨none .lower, none .upper⟩
    · rintro ⟨lower, upper⟩ side
      cases side with
      | lower => exact lower
      | upper => exact upper
  rw [sides, readAtLeast, readAtMost]
  cases limit? atMost claimed text with
  | some bound =>
      -- The upper bound stays, whatever is read for the lower one.
      have kept : ∀ value span,
          (((Reading.nothing : Reading UInt64).claimUpper bound.1 bound.2).claimLower value
            span).bounds.upper = some bound.1 := fun _ _ => upper_claimLower
      cases limit? atLeast claimed text with
      | none => simp [isNothing_iff, claimUpper, Bounds.setUpper?, Reading.nothing]
      | some bound' => simp [isNothing_iff, kept]
  | none =>
      cases limit? atLeast claimed text with
      | none => simp [isNothing_iff, Reading.nothing]
      | some bound => simp [isNothing_iff, claimLower, Bounds.setLower?, Reading.nothing]

/-- The first "between" outside of what is claimed. -/
def freeBetween? (claimed : List Span) (text : Text) : Option Match :=
  (between.findAll text).find? fun found => !found.span.meetsAny claimed

/-- Whether no range can be read: the first free "between" has no two ascending amounts, or there is
none and no bare range to read. -/
def HasNoRange (claimed : List Span) (text : Text) : Prop :=
  match freeBetween? claimed text with
  | some found => ∀ first second, bothAmounts? found = some (first, second) → second < first
  | none => (bareRange.findAll text).findSome? (bareRange? claimed) = none

theorem isNothing_readRange_iff {reading : Reading UInt64} :
    (readRange claimed text reading).isNothing = true ↔
      reading.isNothing = true ∧ HasNoRange claimed text := by
  rw [readRange, ← freeBetween?, HasNoRange]
  cases nothing : reading.isNothing with
  | false => simp [nothing]
  | true =>
      simp only [if_true, true_and]
      cases freeBetween? claimed text with
      | some found =>
          cases amounts : bothAmounts? found with
          | none => simp [readBetween, amounts, nothing]
          | some pair =>
              obtain ⟨first, second⟩ := pair
              by_cases ascending : first ≤ second
              · simp [readBetween, amounts, ascending, isNothing_claimRange nothing]
              · simpa [readBetween, amounts, ascending, nothing] using UInt64.not_le.1 ascending
      | none =>
          dsimp only
          rw [readBareRange]
          cases (bareRange.findAll text).findSome? (bareRange? claimed) with
          | none => simp [nothing]
          | some range => simp [isNothing_claimRange nothing]

/-- No price is found exactly when there is neither a limit nor a range to read. -/
theorem isNothing_read_iff :
    (read claimed text).isNothing = true ↔
      (∀ side : Side, limit? side.limit claimed text = none) ∧ HasNoRange claimed text := by
  rw [read, isNothing_readRange_iff, isNothing_readAtLeast_iff]

end Budget
end SearchPhrase
