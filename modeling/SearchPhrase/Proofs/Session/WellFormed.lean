import SearchPhrase.Proofs.Interpretation.WellFormed
import SearchPhrase.Session

/-!
# Sessions keep records well-formed

A record that a phrase, pairs or a query string produced is well-formed, and so is every record that
a session leads to from there, whatever its steps are and whether they succeed.  Only a step that
takes a record from JSON may lead to a record that is not well-formed.
-/

namespace SearchPhrase
namespace Session

/-- The records that interpretation and reading produce. -/
inductive IsSource : FilterRecord → Prop where
  /-- The filters of a phrase. -/
  | interpreted (phrase : String) : IsSource (Interpretation.ofPhrase phrase).filters
  /-- The record that pairs make up. -/
  | params {pairs : List (String × String)} {record : FilterRecord}
      (read : FilterRecord.ofParams pairs = .ok record) : IsSource record
  /-- The record that a query string spells out. -/
  | query {raw : String} {record : FilterRecord}
      (read : FilterRecord.ofQueryString raw = .ok record) : IsSource record

/-- Whether a step takes its record from JSON. -/
def Step.isReplacement : Step → Bool
  | replace _ => true
  | _ => false

theorem IsSource.wellFormed
    {record : FilterRecord}
    (source : IsSource record) :
    record.WellFormed := by
  cases source with
  | interpreted phrase => exact Interpretation.wellFormed_filters phrase
  | params read => exact FilterRecord.wellFormed_of_ofParams read
  | query read => exact FilterRecord.wellFormed_of_ofQueryString read

theorem eq_ok_of_mapError
    {ε δ α : Type}
    {attempt : Except ε α}
    {explain : ε → δ}
    {value : α}
    (succeeds : attempt.mapError explain = .ok value) :
    attempt = .ok value := by
  cases attempt with
  | error error => cases succeeds
  | ok other =>
      cases succeeds
      rfl

/-- A step that succeeds leads from a well-formed record to a well-formed record. -/
theorem wellFormed_next
    {record next : FilterRecord}
    {step : Step}
    (wellFormed : record.WellFormed)
    (reading : step.isReplacement = false)
    (succeeds : step.next record = .ok next) :
    next.WellFormed := by
  cases step with
  | interpret phrase =>
      cases succeeds
      exact Interpretation.wellFormed_filters phrase
  | reinterpret =>
      cases succeeds
      exact Interpretation.wellFormed_filters record.query
  | preferLocation location =>
      cases succeeds
      exact wellFormed.preferLocation location
  | readQuery raw =>
      have read := eq_ok_of_mapError succeeds
      exact FilterRecord.wellFormed_of_ofQueryString read
  | readParams pairs =>
      have read := eq_ok_of_mapError succeeds
      exact FilterRecord.wellFormed_of_ofParams read
  | extendParams pairs =>
      have read := eq_ok_of_mapError succeeds
      exact FilterRecord.wellFormed_of_ofParams read
  | roundTrip =>
      have read := eq_ok_of_mapError succeeds
      exact FilterRecord.wellFormed_of_ofQueryString read
  | replace value => cases reading

/-- A step keeps a record well-formed whether it succeeds or fails. -/
theorem wellFormed_after
    {record : FilterRecord}
    {step : Step}
    (wellFormed : record.WellFormed)
    (reading : step.isReplacement = false) :
    (after record step).WellFormed := by
  unfold after
  split
  · next succeeds => exact wellFormed_next wellFormed reading succeeds
  · exact wellFormed

/-- Every record that any number of steps leads to is well-formed. -/
theorem wellFormed_foldl_after
    {start : FilterRecord}
    (source : IsSource start)
    (steps : List Step)
    (reading : ∀ step ∈ steps, step.isReplacement = false) :
    (steps.foldl after start).WellFormed := by
  -- The induction needs the record in the middle of a session, which is well-formed but no source.
  suffices invariant : ∀ record : FilterRecord, record.WellFormed →
      (steps.foldl after record).WellFormed by
    exact invariant start source.wellFormed
  induction steps with
  | nil =>
      intro record wellFormed
      exact wellFormed
  | cons step steps ih =>
      intro record wellFormed
      apply ih fun later member => reading later (List.mem_cons_of_mem _ member)
      exact wellFormed_after wellFormed (reading step List.mem_cons_self)

/-- A session that goes on from a phrase, in which one step fails. -/
theorem wellFormed_foldl_after_camry :
    IsSource (Interpretation.ofPhrase "toyota camry under $9k").filters ∧
      (∀ step ∈ [Step.preferLocation " taupo ", .extendParams [("yearMin", "soon")], .roundTrip,
        .reinterpret], step.isReplacement = false) ∧
      ([Step.preferLocation " taupo ", .extendParams [("yearMin", "soon")], .roundTrip,
        .reinterpret].foldl after
          (Interpretation.ofPhrase "toyota camry under $9k").filters).WellFormed := by
  have source := IsSource.interpreted "toyota camry under $9k"
  have reading : ∀ step ∈ [Step.preferLocation " taupo ", .extendParams [("yearMin", "soon")],
      .roundTrip, .reinterpret], step.isReplacement = false := by
    simp [Step.isReplacement]
  exact ⟨source, reading, wellFormed_foldl_after source _ reading⟩

end Session
end SearchPhrase
