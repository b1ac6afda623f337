/-!
# Bounds

An inclusive range of which either end may be open.  An end can be set only once, and only where it
does not cross the other end.
-/

namespace SearchPhrase

/-- An inclusive range with optional ends. -/
structure Bounds (α : Type) where
  /-- The least value, if there is one. -/
  lower : Option α := none
  /-- The greatest value, if there is one. -/
  upper : Option α := none
deriving DecidableEq

namespace Bounds

variable {α : Type} [LT α] [DecidableLT α]

/-- The range without ends. -/
def unbounded : Bounds α :=
  {}

/-- Whether neither end is set. -/
def isUnbounded (bounds : Bounds α) : Bool :=
  bounds.lower.isNone && bounds.upper.isNone

/-- Whether the lower end lies above the upper end. -/
def isReversed (bounds : Bounds α) : Bool :=
  match bounds.lower, bounds.upper with
  | some low, some high => decide (high < low)
  | _, _ => false

/-- The range with its lower end set, unless that end is set already or would lie above the upper
end. -/
def setLower? (bounds : Bounds α) (value : α) : Option (Bounds α) :=
  if bounds.lower.isSome || bounds.upper.any (· < value) then none
  else some { bounds with lower := some value }

/-- The range with its upper end set, unless that end is set already or would lie below the lower
end. -/
def setUpper? (bounds : Bounds α) (value : α) : Option (Bounds α) :=
  if bounds.upper.isSome || bounds.lower.any (value < ·) then none
  else some { bounds with upper := some value }

theorem setLower?_eq_some_iff {bounds result : Bounds α} {value : α} :
    bounds.setLower? value = some result ↔
      bounds.lower = none ∧ (∀ high ∈ bounds.upper, ¬high < value) ∧
        result = { bounds with lower := some value } := by
  rcases bounds with ⟨_ | low, _ | high⟩ <;> simp [setLower?, eq_comm]

theorem setUpper?_eq_some_iff {bounds result : Bounds α} {value : α} :
    bounds.setUpper? value = some result ↔
      bounds.upper = none ∧ (∀ low ∈ bounds.lower, ¬value < low) ∧
        result = { bounds with upper := some value } := by
  rcases bounds with ⟨_ | low, _ | high⟩ <;> simp [setUpper?, eq_comm]

theorem isReversed_eq_false_iff {bounds : Bounds α} :
    bounds.isReversed = false ↔ ∀ low ∈ bounds.lower, ∀ high ∈ bounds.upper, ¬high < low := by
  rcases bounds with ⟨_ | low, _ | high⟩ <;> simp [isReversed]

/-- A lower end that has been set does not lie above the upper end. -/
theorem isReversed_of_setLower? {bounds result : Bounds α} {value : α}
    (set : bounds.setLower? value = some result) : result.isReversed = false := by
  obtain ⟨-, below, rfl⟩ := setLower?_eq_some_iff.1 set
  simpa [isReversed_eq_false_iff] using below

/-- An upper end that has been set does not lie below the lower end. -/
theorem isReversed_of_setUpper? {bounds result : Bounds α} {value : α}
    (set : bounds.setUpper? value = some result) : result.isReversed = false := by
  obtain ⟨-, above, rfl⟩ := setUpper?_eq_some_iff.1 set
  rw [isReversed_eq_false_iff]
  exact fun low member high same => by cases same; exact above low member

end Bounds
end SearchPhrase
