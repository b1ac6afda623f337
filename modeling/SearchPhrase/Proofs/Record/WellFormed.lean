import SearchPhrase.Proofs.Record.Normalized

/-!
# Well-formed records

A well-formed record is consistent, has a query that is not blank and no category, and its
descriptions are trimmed, the model in lower case too.  Whatever pairs a record is read from, it
is well-formed, and a preferred location keeps it so.  The query string of a well-formed record is
read back as the record but for white space at the ends of its query.
-/

namespace SearchPhrase
namespace FilterRecord

/-- Every description is trimmed, the model is in lower case, and the category is unset. -/
structure HasTidyValues (record : FilterRecord) : Prop where
  /-- The make is trimmed. -/
  make : ∀ make ∈ record.make, Text.IsTrimmed make.toList
  /-- The model is trimmed. -/
  model : ∀ model ∈ record.model, Text.IsTrimmed model.toList
  /-- The model is in lower case. -/
  lowerModel : ∀ model ∈ record.model, Unicode.lowercase model.toList = model.toList
  /-- The location is trimmed. -/
  location : ∀ location ∈ record.location, Text.IsTrimmed location.toList
  /-- The color is trimmed. -/
  color : ∀ color ∈ record.color, Text.IsTrimmed color.toList
  /-- The category is unset. -/
  category : record.category = none

/-- A record as interpretation and reading produce it. -/
structure WellFormed (record : FilterRecord) : Prop
    extends HasTidyValues record, IsConsistent record where
  /-- The query is not blank. -/
  query : Text.isBlank record.query.toList = false

/-- A step that succeeds leads from a first result to the whole one. -/
theorem exists_of_bind_eq_ok
    {ε α β : Type}
    {first : Except ε α}
    {next : α → Except ε β}
    {result : β}
    (succeeds : (first >>= next) = .ok result) :
    ∃ value, first = .ok value ∧ next value = .ok result := by
  cases first with
  | error error => cases succeeds
  | ok value => exact ⟨value, rfl, succeeds⟩

/-- The values of a record that is still being read: its descriptions are tidy, and its query is
missing or not blank. -/
structure IsPartial (record : FilterRecord) : Prop extends HasTidyValues record where
  /-- The query is missing or not blank. -/
  query : record.query ≠ "" → Text.isBlank record.query.toList = false

theorem isPartial_empty : IsPartial {} where
  make := by simp
  model := by simp
  lowerModel := by simp
  location := by simp
  color := by simp
  category := rfl
  query := fun missing => absurd rfl missing

/-- Assigning a trimmed value keeps a record partial. -/
theorem IsPartial.assign
    {record result : FilterRecord}
    {param : Param}
    {value : Text}
    (isPartial : record.IsPartial)
    (trimmed : Text.IsTrimmed value)
    (assigned : param.assign record value = .ok result) :
    result.IsPartial := by
  obtain ⟨⟨make, model, lowerModel, location, color, category⟩, query⟩ := isPartial
  cases param with
  | make =>
      cases assigned
      exact ⟨⟨by simpa using trimmed, model, lowerModel, location, color, category⟩, query⟩
  | model =>
      cases assigned
      exact ⟨⟨make, by simpa using Unicode.isTrimmed_lowercase trimmed, by simp, location, color,
        category⟩, query⟩
  | location =>
      cases assigned
      exact ⟨⟨make, model, lowerModel, by simpa using trimmed, color, category⟩, query⟩
  | color =>
      cases assigned
      exact ⟨⟨make, model, lowerModel, location, by simpa using trimmed, category⟩, query⟩
  | query =>
      cases assigned
      exact ⟨⟨make, model, lowerModel, location, color, category⟩,
        fun _ => by simpa using trimmed.isBlank_eq_false⟩
  | yearMin | yearMax | priceMin | priceMax | odometerMin | odometerMax | condition =>
      obtain ⟨_, -, same⟩ := exists_of_bind_eq_ok assigned
      cases same
      exact ⟨⟨make, model, lowerModel, location, color, category⟩, query⟩

/-- What assigning trimmed values keeps up is kept up by taking in any pairs. -/
theorem foldlM_takeParam_induction
    {Holds : FilterRecord → Prop}
    (assign : ∀ {record result : FilterRecord} {param : Param} {value : Text}, Holds record →
      Text.IsTrimmed value → param.assign record value = .ok result → Holds result)
    {pairs : List (String × String)}
    {record result : FilterRecord}
    (holds : Holds record)
    (taken : pairs.foldlM takeParam record = .ok result) :
    Holds result := by
  have takeParam : ∀ {record result : FilterRecord} {pair : String × String}, Holds record →
      record.takeParam pair = .ok result → Holds result := by
    intro record result pair holds taken
    rw [FilterRecord.takeParam] at taken
    split at taken
    · cases taken
      exact holds
    · next visible =>
        have trimmed : Text.IsTrimmed (Text.trim pair.2.toList) := by
          refine ⟨?_, Text.trim_trim _⟩
          simpa using visible
        split at taken
        · cases taken
          exact holds
        · exact assign holds trimmed taken
  induction pairs generalizing record with
  | nil =>
      cases taken
      exact holds
  | cons pair pairs ih =>
      rw [List.foldlM_cons] at taken
      obtain ⟨next, first, rest⟩ := exists_of_bind_eq_ok taken
      exact ih (takeParam holds first) rest

theorem inconsistency?_eq_none_iff {record : FilterRecord} :
    record.inconsistency? = none ↔ record.IsConsistent := by
  have accepted := @verdict_eq_ok_iff record record
  rw [verdict_eq] at accepted
  cases found : record.inconsistency? with
  | none => simpa [found] using accepted
  | some error => simpa [found] using accepted

/-- A partial record that can be finished becomes a well-formed one. -/
theorem IsPartial.finish
    {record result : FilterRecord}
    (isPartial : record.IsPartial)
    (finished : record.finish = .ok result) :
    result.WellFormed := by
  obtain ⟨tidy, query⟩ := isPartial
  rw [FilterRecord.finish] at finished
  split at finished
  · cases finished
  · next none =>
      have consistent := inconsistency?_eq_none_iff.1 none
      cases finished
      have visible : Text.isBlank matchAllQuery.toList = false := by decide
      unfold completeQuery
      split
      · exact ⟨⟨tidy.make, tidy.model, tidy.lowerModel, tidy.location, tidy.color, tidy.category⟩,
          ⟨consistent.make_of_model, consistent.year, consistent.price, consistent.odometer⟩,
          visible⟩
      · next there =>
          exact ⟨tidy, consistent, query (by simpa using there)⟩

/-- A record that pairs make up is well-formed. -/
theorem wellFormed_of_ofParams
    {pairs : List (String × String)}
    {record : FilterRecord}
    (read : ofParams pairs = .ok record) :
    record.WellFormed := by
  rw [ofParams] at read
  obtain ⟨taken, all, finished⟩ := exists_of_bind_eq_ok read
  exact (foldlM_takeParam_induction IsPartial.assign isPartial_empty all).finish finished

/-- A record that a query string spells out is well-formed. -/
theorem wellFormed_of_ofQueryString
    {raw : String}
    {record : FilterRecord}
    (read : ofQueryString raw = .ok record) :
    record.WellFormed := by
  rw [ofQueryString] at read
  obtain ⟨pairs, -, made⟩ := exists_of_bind_eq_ok read
  exact wellFormed_of_ofParams made

theorem WellFormed.preferLocation
    {record : FilterRecord}
    (wellFormed : record.WellFormed)
    (location : String) :
    (record.preferLocation location).WellFormed := by
  obtain ⟨tidy, consistent, query⟩ := wellFormed
  unfold FilterRecord.preferLocation
  dsimp only
  split
  · next chosen =>
      have there : Text.trim location.toList ≠ [] := by
        simp only [Bool.and_eq_true, Bool.not_eq_true', List.isEmpty_eq_false_iff] at chosen
        exact chosen.2
      have trimmed : Text.IsTrimmed (Text.trim location.toList) := ⟨there, Text.trim_trim _⟩
      exact ⟨⟨tidy.make, tidy.model, tidy.lowerModel, by simpa using trimmed, tidy.color,
        tidy.category⟩,
        ⟨consistent.make_of_model, consistent.year, consistent.price, consistent.odometer⟩, query⟩
  · exact ⟨tidy, consistent, query⟩

theorem tidied_eq_self
    {value : Option String}
    (trimmed : ∀ text ∈ value, Text.IsTrimmed text.toList) :
    tidied value = value := by
  cases value with
  | none => rfl
  | some text =>
      obtain ⟨nonempty, same⟩ := trimmed text rfl
      rw [tidied, Option.map_some, Option.bind_some, same, if_neg nonempty, String.ofList_toList]

/-- The record without white space at the ends of its query. -/
def trimQuery (record : FilterRecord) : FilterRecord :=
  { record with query := String.ofList (Text.trim record.query.toList) }

theorem trimQuery_eq_self_iff {record : FilterRecord} :
    record.trimQuery = record ↔ Text.trim record.query.toList = record.query.toList := by
  constructor
  · intro same
    have sameQuery : String.ofList (Text.trim record.query.toList) = record.query :=
      congrArg query same
    rw [← String.toList_ofList (l := Text.trim record.query.toList), sameQuery]
  · intro trimmed
    rw [trimQuery, trimmed, String.ofList_toList]

/-- The normal form of a well-formed record has its query trimmed and is the same otherwise. -/
theorem WellFormed.normalized_eq {record : FilterRecord} (wellFormed : record.WellFormed) :
    record.normalized = record.trimQuery := by
  obtain ⟨tidy, -, query⟩ := wellFormed
  have model : (record.model.map fun model => String.ofList (Unicode.lowercase model.toList)) =
      record.model := by
    cases found : record.model with
    | none => rfl
    | some model => rw [Option.map_some, tidy.lowerModel model found, String.ofList_toList]
  have there : Text.trim record.query.toList ≠ [] := (Text.isTrimmed_trim query).1
  rw [normalized, trimQuery, tidied_eq_self tidy.make, tidied_eq_self tidy.model, model,
    tidied_eq_self tidy.location, tidied_eq_self tidy.color, ← tidy.category, tidied,
    Option.map_some, Option.bind_some, if_neg there, Option.getD_some]

/-- A well-formed record is read back with its query trimmed. -/
theorem WellFormed.ofQueryString_eq_ok
    {record : FilterRecord}
    (wellFormed : record.WellFormed) :
    ofQueryString record.queryString = .ok record.trimQuery := by
  rw [ofQueryString_queryString_eq_verdict, wellFormed.normalized_eq]
  apply verdict_of_isConsistent
  exact ⟨wellFormed.make_of_model, wellFormed.year, wellFormed.price, wellFormed.odometer⟩

end FilterRecord
end SearchPhrase
