import Mathlib.Tactic.TFAE
import SearchPhrase.CommandLine.Output

/-!
# Whether anything is set

A record is asked in four ways whether it narrows a search down by anything but keywords: by its own
test, by whether it has a summary, by the pairs it is written as, and by the pairs that are listed
for it.  Each goes through the parameters in its own way, and only the first one looks at the
category.
-/

namespace SearchPhrase

theorem Bounds.isUnbounded_eq_false_iff {α : Type} {bounds : Bounds α} :
    bounds.isUnbounded = false ↔ bounds.lower.isSome = true ∨ bounds.upper.isSome = true := by
  obtain ⟨lower, upper⟩ := bounds
  cases lower <;> cases upper <;> simp [isUnbounded]

/-- A range is displayed if either end of it is set. -/
theorem Bounds.isSome_describe?
    {α : Type}
    [DecidableEq α]
    (bounds : Bounds α)
    (display : α → Text) :
    (bounds.describe? display).isSome = true ↔ bounds.isUnbounded = false := by
  obtain ⟨_ | low, _ | high⟩ := bounds
  case some.some => by_cases same : low = high <;> simp [describe?, isUnbounded, same]
  all_goals simp [describe?, isUnbounded]

namespace FilterRecord

variable {record : FilterRecord}

theorem isSome_conditionText? {separator : Text} :
    (record.conditionText? separator).isSome = true ↔ record.condition.isEmpty = false := by
  cases empty : record.condition.isEmpty <;> simp [conditionText?, empty]

/-- A record has a parameter besides the keywords. -/
def SetsAny (record : FilterRecord) : Prop :=
  ∃ param ∈ Param.all, param ≠ .query ∧ (param.value? record).isSome = true

/-- The parameters that may be set are those that a summary tells, where the two ends of a range go
together. -/
theorem setsAny_iff :
    record.SetsAny ↔
      record.make.isSome = true ∨ record.model.isSome = true ∨ record.year.isUnbounded = false ∨
        record.price.isUnbounded = false ∨ record.odometer.isUnbounded = false ∨
        record.location.isSome = true ∨ record.color.isSome = true ∨
        record.condition.isEmpty = false := by
  simp [SetsAny, Param.all, Param.value?, Bounds.isUnbounded_eq_false_iff, isSome_conditionText?,
    or_assoc]

/-- The test of a record looks at the category too. -/
theorem isStructured_iff :
    record.isStructured = true ↔ record.SetsAny ∨ record.category.isSome = true := by
  rw [setsAny_iff]
  simp [isStructured, or_assoc]

/-- A summary has a part for all that is set. -/
theorem isSome_summary?_iff : record.summary?.isSome = true ↔ record.SetsAny := by
  have there : record.summary?.isSome = true ↔ record.summaryParts ≠ [] := by
    rw [summary?]
    cases record.summaryParts <;> simp
  have displayed : record.summaryParts ≠ [] ↔ ∃ entry ∈ record.displays, entry.2.isSome = true := by
    simp [summaryParts, Option.isSome_iff_ne_none]
  rw [there, displayed, setsAny_iff]
  simp [displays, Bounds.isSome_describe?, isSome_conditionText?]

/-- A pair is written for all that is set, under the name of the parameter. -/
theorem exists_param_iff : (∃ pair ∈ record.params, pair.1 ≠ Param.query.key) ↔ record.SetsAny := by
  have named : ∀ param : Param, param.key ≠ Param.query.key ↔ param ≠ .query := by
    intro param
    cases param <;> decide
  simp only [params, List.mem_filterMap, Option.map_eq_some_iff, SetsAny,
    Option.isSome_iff_exists, ← named]
  constructor
  · rintro ⟨_, ⟨param, listed, value, written, rfl⟩, other⟩
    exact ⟨param, listed, other, value, written⟩
  · rintro ⟨param, listed, other, value, written⟩
    exact ⟨_, ⟨param, listed, value, written, rfl⟩, other⟩

theorem listedParams_ne_nil_iff : CommandLine.listedParams record ≠ [] ↔ record.SetsAny := by
  rw [← exists_param_iff, CommandLine.listedParams, Ne, List.filter_eq_nil_iff]
  simp [Param.key]

/-- The readings of whether anything is set agree where no category is set. -/
theorem isStructured_tfae (unsorted : record.category = none) :
    List.TFAE [record.isStructured = true, record.summary?.isSome = true,
      ∃ pair ∈ record.params, pair.1 ≠ "query", CommandLine.listedParams record ≠ []] := by
  have structured : record.isStructured = true ↔ record.SetsAny := by
    simp [isStructured_iff, unsorted]
  tfae_have 1 ↔ 2 := structured.trans isSome_summary?_iff.symm
  tfae_have 1 ↔ 3 := structured.trans exists_param_iff.symm
  tfae_have 1 ↔ 4 := structured.trans listedParams_ne_nil_iff.symm
  tfae_finish

end FilterRecord
end SearchPhrase
