import SearchPhrase.Proofs.Record.Fields

/-!
# What a value tells of an interpretation

The value that an interpretation is written as has the filters in one field, where they are read
back as the record that they are, the summary in another unless there is none, and the phrase in a
third.  Further fields, such as a fingerprint, take nothing away from that.
-/

namespace SearchPhrase

open Json

namespace Interpretation

/-- A value tells an interpretation by the fields that it has. -/
structure IsToldBy (interpretation : Interpretation) (value : Json) : Prop where
  /-- The filters are read from it. -/
  filters : (value.field? "filters").bind FilterRecord.ofJson? = some interpretation.filters
  /-- It has the summary, if there is one. -/
  interpretedAs : value.field? "interpretedAs" = interpretation.interpretedAs.map .string
  /-- It has the phrase as it was written. -/
  phrase : value.field? "originalQuery" = some (.string interpretation.phrase)

/-- The fields of an interpretation are found by their names among others. -/
theorem lookup?_jsonFields_append
    {others : List (String × Json)}
    (interpretation : Interpretation)
    {name : String}
    (absent : lookup? name others = none) :
    lookup? name (interpretation.jsonFields ++ others) =
      if name = "filters" then some interpretation.filters.toJson
      else if name = "interpretedAs" then interpretation.interpretedAs.map .string
      else if name = "originalQuery" then some (.string interpretation.phrase)
      else none := by
  rw [lookup?_append, absent, Option.none_or, jsonFields, ← List.singleton_append, lookup?_append,
    lookup?_append, lookup?_optional]
  by_cases filters : name = "filters"
  · subst filters
    simp [lookup?]
  · by_cases interpretedAs : name = "interpretedAs"
    · subst interpretedAs
      simp [lookup?]
    · by_cases phrase : name = "originalQuery"
      · subst phrase
        simp [lookup?]
      · simp [lookup?, filters, interpretedAs, phrase, Ne.symm filters, Ne.symm interpretedAs,
          Ne.symm phrase]

/-- An interpretation is told by its fields, whatever comes after them under other names. -/
theorem isToldBy_jsonFields_append
    {others : List (String × Json)}
    (interpretation : Interpretation)
    (absent : ∀ name ∈ ["filters", "interpretedAs", "originalQuery"],
      lookup? name others = none) :
    interpretation.IsToldBy (.object (interpretation.jsonFields ++ others)) := by
  simp only [List.forall_mem_cons, List.not_mem_nil, false_implies, implies_true,
    and_true] at absent
  obtain ⟨filters, interpretedAs, phrase⟩ := absent
  refine ⟨?_, ?_, ?_⟩
  · rw [field?, interpretation.lookup?_jsonFields_append filters, if_pos rfl, Option.bind_some,
      FilterRecord.ofJson?_toJson]
  · rw [field?, interpretation.lookup?_jsonFields_append interpretedAs]
    rfl
  · rw [field?, interpretation.lookup?_jsonFields_append phrase]
    rfl

theorem isToldBy_toJson (interpretation : Interpretation) :
    interpretation.IsToldBy interpretation.toJson := by
  have told := @isToldBy_jsonFields_append [] interpretation fun _ _ => rfl
  rwa [List.append_nil] at told

end Interpretation
end SearchPhrase
