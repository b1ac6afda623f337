import SearchPhrase.Interpretation
import SearchPhrase.Json.RoundTrip

/-!
# Printed records and interpretations

The numbers of a record are written as numerals, so that the printed form of a record, or of an
interpretation that holds one, is read as the same JSON value in either layout.
-/

namespace SearchPhrase

namespace Json

@[simp] theorem hasNumerals_string (value : String) : HasNumerals (.string value) :=
  trivial

@[simp] theorem hasNumerals_ofNat (n : Nat) : HasNumerals (.ofNat n) :=
  ⟨n, rfl⟩

theorem hasNumerals_strings (values : List String) : HasNumerals (.array (values.map .string)) :=
  itemsHaveNumerals_iff.2 fun item member => by
    obtain ⟨value, -, rfl⟩ := List.mem_map.1 member
    exact hasNumerals_string value

theorem fieldsHaveNumerals_append {first second : List (String × Json)} :
    FieldsHaveNumerals (first ++ second) ↔
      FieldsHaveNumerals first ∧ FieldsHaveNumerals second := by
  simp only [fieldsHaveNumerals_iff, List.forall_mem_append]

theorem fieldsHaveNumerals_optional {name : String} {value : Option Json} :
    FieldsHaveNumerals (optional name value) ↔ ∀ item ∈ value, HasNumerals item := by
  cases value <;> simp [optional, FieldsHaveNumerals]

end Json

namespace FilterRecord

open Json

theorem hasNumerals_of_mem_conditionsJson? {record : FilterRecord} {value : Json}
    (member : value ∈ record.conditionsJson?) : HasNumerals value := by
  rw [conditionsJson?] at member
  split at member
  · simp at member
  · obtain rfl := Option.mem_some_iff.1 member
    have strings := hasNumerals_strings (record.condition.map Condition.label)
    rwa [List.map_map] at strings

/-- The numbers of a record are written as numerals. -/
theorem hasNumerals_toJson (record : FilterRecord) : HasNumerals record.toJson := by
  have conditions := fun value => @hasNumerals_of_mem_conditionsJson? record value
  simp only [toJson, HasNumerals, jsonFields, fieldsHaveNumerals_append,
    fieldsHaveNumerals_optional]
  simpa [FieldsHaveNumerals] using conditions

theorem parse?_compact_toJson (record : FilterRecord) :
    parse? record.toJson.compact = some record.toJson :=
  parse?_compact record.hasNumerals_toJson

theorem parse?_indented_toJson (record : FilterRecord) :
    parse? record.toJson.indented = some record.toJson :=
  parse?_indented record.hasNumerals_toJson

end FilterRecord

namespace Interpretation

open Json

/-- The numbers of an interpretation are written as numerals. -/
theorem hasNumerals_toJson (interpretation : Interpretation) :
    HasNumerals interpretation.toJson := by
  have filters := interpretation.filters.hasNumerals_toJson
  simpa [toJson, HasNumerals, jsonFields, FieldsHaveNumerals, fieldsHaveNumerals_append,
    fieldsHaveNumerals_optional] using filters

theorem parse?_compact_toJson (interpretation : Interpretation) :
    parse? interpretation.toJson.compact = some interpretation.toJson :=
  parse?_compact interpretation.hasNumerals_toJson

theorem parse?_indented_toJson (interpretation : Interpretation) :
    parse? interpretation.toJson.indented = some interpretation.toJson :=
  parse?_indented interpretation.hasNumerals_toJson

end Interpretation
end SearchPhrase
