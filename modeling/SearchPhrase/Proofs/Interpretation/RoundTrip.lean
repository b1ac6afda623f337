import SearchPhrase.Proofs.Interpretation.WellFormed

/-!
# Reading the filters of a phrase back

The filters of a phrase, with or without a preferred location, are read back from their query string
with white space trimmed off the ends of the query.  The query has such white space only where it is
the phrase itself: the phrase is padded, and nothing of it is left once everything else has been
taken out.
-/

namespace SearchPhrase

/-- Keywords are trimmed unless they are a whole phrase that is padded. -/
theorem Keywords.trim_read_eq_self_iff {phrase : Text} :
    Text.trim (Keywords.read phrase) = Keywords.read phrase ↔
      Text.isBlank (Keywords.strip phrase) = false ∨ Text.isBlank phrase = true ∨
        Text.trim phrase = phrase := by
  unfold Keywords.read
  rcases Text.collapse_eq_nil_or_isTrimmed (strip phrase) with
    ⟨nothing, blankRest⟩ | ⟨trimmed, solidRest⟩
  · rw [nothing, blankRest]
    cases blank : Text.isBlank phrase with
    | true => simp [(by decide : Text.trim matchAll = matchAll)]
    | false => simp
  · have there : (Text.collapse (strip phrase)).isEmpty = false :=
      List.isEmpty_eq_false_iff.2 trimmed.1
    simp [there, trimmed.2, solidRest]

namespace Interpretation

theorem query_preferLocation (interpretation : Interpretation) (location : Option String) :
    (interpretation.preferLocation location).filters.query = interpretation.filters.query := by
  cases location with
  | none => rfl
  | some location =>
      unfold preferLocation FilterRecord.preferLocation
      dsimp only
      split <;> rfl

theorem wellFormed_filters_preferLocation (phrase : String) (location : Option String) :
    ((ofPhrase phrase).preferLocation location).filters.WellFormed := by
  have wellFormed := wellFormed_filters phrase
  cases location with
  | none => exact wellFormed
  | some location => exact wellFormed.preferLocation location

/-- The filters of a phrase are read back with their query trimmed, and so unchanged exactly when
some keyword is left of the phrase, or the phrase is blank, or it is not padded. -/
theorem ofQueryString_filters (phrase : String) (location : Option String) :
    FilterRecord.ofQueryString ((ofPhrase phrase).preferLocation location).filters.queryString =
        .ok ((ofPhrase phrase).preferLocation location).filters.trimQuery ∧
      (FilterRecord.ofQueryString
            ((ofPhrase phrase).preferLocation location).filters.queryString =
          .ok ((ofPhrase phrase).preferLocation location).filters ↔
        Text.isBlank (Keywords.strip phrase.toList) = false ∨
          Text.isBlank phrase.toList = true ∨ Text.trim phrase.toList = phrase.toList) := by
  have wellFormed := wellFormed_filters_preferLocation phrase location
  have query : ((ofPhrase phrase).preferLocation location).filters.query =
      String.ofList (Keywords.read phrase.toList) :=
    query_preferLocation (ofPhrase phrase) location
  have back := wellFormed.ofQueryString_eq_ok
  refine ⟨back, ?_⟩
  rw [back, Except.ok.injEq, FilterRecord.trimQuery_eq_self_iff, query, String.toList_ofList]
  exact Keywords.trim_read_eq_self_iff

/-- A phrase of filler words between blanks is kept as it is but read back without the blanks. -/
theorem ofQueryString_filters_padded :
    (ofPhrase " find me ").filters = { query := " find me " } ∧
      FilterRecord.ofQueryString (ofPhrase " find me ").filters.queryString =
        .ok { query := "find me" } ∧
      FilterRecord.ofQueryString (ofPhrase " find me ").filters.queryString ≠
        .ok (ofPhrase " find me ").filters := by
  have filters : (ofPhrase " find me ").filters = { query := " find me " } := by
    decide +kernel
  have back : FilterRecord.ofQueryString (ofPhrase " find me ").filters.queryString =
      .ok { query := "find me" } := by
    rw [filters]
    rfl
  refine ⟨filters, back, ?_⟩
  rw [back, filters, ne_eq, Except.ok.injEq]
  decide

end Interpretation
end SearchPhrase
