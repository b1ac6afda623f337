import SearchPhrase.CommandLine.Output
import SearchPhrase.Proofs.Interpretation.WellFormed
import SearchPhrase.Proofs.Record.Displays

/-!
# Records that fit on a line

The descriptions that are read from a phrase hold no line feeds, so that neither does anything that
a record is written or summed up as, its keywords aside.
-/

namespace SearchPhrase

namespace Text

theorem not_mem_numeral (n : Nat) : '\n' ∉ numeral n :=
  fun member => absurd (isDigit_of_mem_numeral member) (by decide)

end Text

namespace FilterRecord

/-- The descriptions of a record hold no line feeds. -/
structure IsSingleLine (record : FilterRecord) : Prop where
  /-- The make holds none. -/
  make : ∀ make ∈ record.make, '\n' ∉ make.toList
  /-- The model holds none. -/
  model : ∀ model ∈ record.model, '\n' ∉ model.toList
  /-- The place holds none. -/
  location : ∀ location ∈ record.location, '\n' ∉ location.toList
  /-- The color holds none. -/
  color : ∀ color ∈ record.color, '\n' ∉ color.toList

theorem not_mem_conditionText?
    {record : FilterRecord}
    {separator text : Text}
    (solid : '\n' ∉ separator)
    (written : record.conditionText? separator = some text) :
    '\n' ∉ text := by
  have plain : ∀ condition : Condition, '\n' ∉ condition.label.toList := by
    intro condition
    cases condition <;> decide
  rw [conditionText?] at written
  split at written
  · simp at written
  · obtain rfl := Option.some.inj written
    intro member
    rcases Text.mem_intercalate member with between | ⟨_, known, inside⟩
    · exact solid between
    · obtain ⟨condition, -, rfl⟩ := List.mem_map.1 known
      exact plain condition inside

/-- A description is written as it is. -/
theorem not_mem_description
    {description : Option String}
    {text : Text}
    (plain : ∀ value ∈ description, '\n' ∉ value.toList)
    (written : description.map String.toList = some text) :
    '\n' ∉ text := by
  obtain ⟨value, there, rfl⟩ := Option.map_eq_some_iff.1 written
  exact plain value there

/-- A number is written as its numeral. -/
theorem not_mem_number
    {α : Type}
    {number : Option α}
    {toNat : α → Nat}
    {text : Text}
    (written : (number.map fun value => Text.numeral (toNat value)) = some text) :
    '\n' ∉ text := by
  obtain ⟨value, -, rfl⟩ := Option.map_eq_some_iff.1 written
  exact Text.not_mem_numeral _

namespace IsSingleLine

variable {record : FilterRecord} (single : record.IsSingleLine)

include single

theorem not_mem_value?
    {param : Param}
    {value : Text}
    (other : param ≠ .query)
    (written : param.value? record = some value) :
    '\n' ∉ value := by
  cases param with
  | make => exact not_mem_description single.make written
  | model => exact not_mem_description single.model written
  | yearMin | yearMax | priceMin | priceMax | odometerMin | odometerMax =>
      exact not_mem_number written
  | location => exact not_mem_description single.location written
  | color => exact not_mem_description single.color written
  | condition => exact not_mem_conditionText? (by decide) written
  | query => exact absurd rfl other

theorem not_mem_listed
    {pair : String × String}
    (listed : pair ∈ CommandLine.listedParams record) :
    '\n' ∉ pair.1.toList ++ ": ".toList ++ pair.2.toList := by
  obtain ⟨written, other⟩ := List.mem_filter.1 listed
  obtain ⟨param, -, written⟩ := List.mem_filterMap.1 written
  obtain ⟨value, isWritten, rfl⟩ := Option.map_eq_some_iff.1 written
  have named : param ≠ .query ∧ '\n' ∉ param.key.toList ++ ": ".toList := by
    cases param
    case query => simp [Param.key] at other
    all_goals decide
  have plain : '\n' ∉ (String.ofList value).toList := by
    rw [String.toList_ofList]
    exact single.not_mem_value? named.1 isWritten
  rw [List.mem_append, not_or]
  exact ⟨named.2, plain⟩

/-- The parts of a summary hold no line feeds. -/
theorem not_mem_display
    {entry : Text × Option Text}
    {text : Text}
    (displayed : entry ∈ record.displays)
    (shown : entry.2 = some text) :
    '\n' ∉ entry.1 ++ text := by
  have labels : ∀ entry ∈ record.displays, '\n' ∉ entry.1 := by
    simp [displays]
  rw [List.mem_append, not_or]
  refine ⟨labels entry displayed, ?_⟩
  have foreign : isFigural '\n' = false ∧ '\n' ∉ rangeWords := by decide
  simp only [displays, List.mem_cons, List.not_mem_nil, or_false] at displayed
  rcases displayed with rfl | rfl | rfl | rfl | rfl | rfl | rfl | rfl
  · exact not_mem_description single.make shown
  · exact not_mem_description single.model shown
  · exact isPlain_displayYear.not_mem_describe? foreign shown
  · exact isPlain_displayPrice.not_mem_describe? foreign shown
  · exact isPlain_displayDistance.not_mem_describe? foreign shown
  · exact not_mem_description single.location shown
  · exact not_mem_description single.color shown
  · exact not_mem_conditionText? (by decide) shown

theorem not_mem_summary {summary : String} (told : record.summary? = some summary) :
    '\n' ∉ summary.toList := by
  rw [summary?] at told
  split at told
  · simp at told
  · obtain rfl := Option.some.inj told
    rw [String.toList_ofList]
    intro member
    rcases Text.mem_intercalate member with between | ⟨part, known, inside⟩
    · exact absurd between (by decide)
    · obtain ⟨entry, displayed, isPart⟩ := List.mem_filterMap.1 known
      obtain ⟨text, shown, rfl⟩ := Option.map_eq_some_iff.1 isPart
      exact single.not_mem_display displayed shown inside

end IsSingleLine
end FilterRecord

namespace Interpretation

/-- The filters of a phrase hold no line feeds, its keywords aside. -/
theorem isSingleLine_filters (phrase : String) : (ofPhrase phrase).filters.IsSingleLine where
  make := by
    have plain : ∀ make ∈ Maker.makes, '\n' ∉ (Maker.displayName make).toList := by decide +kernel
    intro make member
    obtain ⟨mention, found, rfl⟩ := Option.map_eq_some_iff.1 member
    obtain ⟨make, known, named⟩ := Maker.exists_of_read found
    exact named ▸ plain make known
  model := by
    intro model member
    obtain ⟨mention, -, start⟩ := Option.bind_eq_some_iff.1 member
    obtain ⟨words, -, rfl, each⟩ := ModelName.exists_words_of_atStart start
    rw [String.toList_ofList]
    intro member
    rcases Text.mem_intercalate member with between | ⟨word, known, inside⟩
    · exact absurd between (by decide)
    · exact absurd ((each word known).2.1 _ inside) (by decide)
  location := by
    have plain : ∀ place ∈ Locality.places, '\n' ∉ (Locality.displayName place).toList := by
      decide +kernel
    intro location member
    obtain ⟨mention, found, rfl⟩ := Option.map_eq_some_iff.1 member
    obtain ⟨place, known, named⟩ := Locality.exists_of_read found
    exact named ▸ plain place known
  color := by
    have plain : ∀ color ∈ Traits.colors, '\n' ∉ (Traits.displayColor color).toList := by
      decide +kernel
    intro color member
    obtain ⟨name, found, rfl⟩ := Option.map_eq_some_iff.1 member
    exact plain name (List.mem_of_find?_eq_some found)

end Interpretation
end SearchPhrase
