import SearchPhrase.Proofs.Record.WellFormed

/-!
# Canonical query strings

However a query string spells a record (with repeated or unknown names, signs and leading zeros,
blanks, labels in any case), the record that is read from it is read back unchanged from the query
string that the record itself is written as.  The same goes for pairs.  The records that reading
accepts at all are exactly those that are read back.
-/

namespace SearchPhrase
namespace FilterRecord

/-- The query of a record is missing, or it has no white space at its ends. -/
def HasTrimmedQuery (record : FilterRecord) : Prop :=
  record.query = "" ∨ Text.IsTrimmed record.query.toList

/-- Assigning a trimmed value leaves a trimmed query. -/
theorem HasTrimmedQuery.assign
    {record result : FilterRecord}
    {param : Param}
    {value : Text}
    (trimmedQuery : record.HasTrimmedQuery)
    (trimmed : Text.IsTrimmed value)
    (assigned : param.assign record value = .ok result) :
    result.HasTrimmedQuery := by
  cases param with
  | query =>
      cases assigned
      exact .inr (by simpa using trimmed)
  | make | model | location | color =>
      cases assigned
      exact trimmedQuery
  | yearMin | yearMax | priceMin | priceMax | odometerMin | odometerMax | condition =>
      obtain ⟨_, -, same⟩ := exists_of_bind_eq_ok assigned
      cases same
      exact trimmedQuery

/-- A missing query is made up for, so that the query of a finished record is trimmed. -/
theorem HasTrimmedQuery.finish
    {record result : FilterRecord}
    (trimmedQuery : record.HasTrimmedQuery)
    (finished : record.finish = .ok result) :
    Text.IsTrimmed result.query.toList := by
  rw [FilterRecord.finish] at finished
  split at finished
  · cases finished
  · cases finished
    unfold completeQuery
    split
    · have trimmed : Text.IsTrimmed matchAllQuery.toList := by decide
      exact trimmed
    · next there => exact trimmedQuery.resolve_left (by simpa using there)

/-- A record that pairs make up is as trimming its query leaves it. -/
theorem trimQuery_eq_self_of_ofParams
    {pairs : List (String × String)}
    {record : FilterRecord}
    (read : ofParams pairs = .ok record) :
    record.trimQuery = record := by
  rw [ofParams] at read
  obtain ⟨taken, all, finished⟩ := exists_of_bind_eq_ok read
  have trimmedQuery := foldlM_takeParam_induction HasTrimmedQuery.assign (.inl rfl) all
  exact trimQuery_eq_self_iff.2 (trimmedQuery.finish finished).2

/-- A record that pairs make up is read back from the query string that it is written as. -/
theorem ofQueryString_queryString_eq_ok_of_ofParams
    {pairs : List (String × String)}
    {record : FilterRecord}
    (read : ofParams pairs = .ok record) :
    ofQueryString record.queryString = .ok record := by
  rw [(wellFormed_of_ofParams read).ofQueryString_eq_ok, trimQuery_eq_self_of_ofParams read]

/-- A record is read back from the query string that it is written as exactly when some query
string is read as it, and exactly when some pairs are. -/
theorem ofQueryString_queryString_eq_ok_iff (record : FilterRecord) :
    (ofQueryString record.queryString = .ok record ↔
        ∃ raw : String, ofQueryString raw = .ok record) ∧
      (ofQueryString record.queryString = .ok record ↔
        ∃ pairs : List (String × String), ofParams pairs = .ok record) := by
  have ofPairs : (∃ pairs, ofParams pairs = .ok record) →
      ofQueryString record.queryString = .ok record := by
    rintro ⟨pairs, read⟩
    exact ofQueryString_queryString_eq_ok_of_ofParams read
  refine ⟨⟨fun back => ⟨_, back⟩, ?_⟩, ⟨?_, ofPairs⟩⟩
  · rintro ⟨raw, read⟩
    rw [ofQueryString] at read
    obtain ⟨pairs, -, made⟩ := exists_of_bind_eq_ok read
    exact ofPairs ⟨pairs, made⟩
  · intro back
    rw [ofQueryString_queryString_eq_ofParams] at back
    exact ⟨record.params, back⟩

/-- A query string with a name given twice, blanks, a sign, a leading zero, an unknown name and a
label in capitals, and the one that its record is written as. -/
example :
    (ofQueryString "?query=desk&q=+Old%20BIKE+&yearMin=%2B02015&page=2&condition=,LIKE+new").map
        queryString =
      .ok "yearMin=2015&condition=Like%20New&query=Old%20BIKE" := by
  rfl

end FilterRecord
end SearchPhrase
