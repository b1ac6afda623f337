import SearchPhrase.Proofs.Interpretation.Told
import SearchPhrase.Proofs.Phrase.Gazetteer
import SearchPhrase.Proofs.Record.Normalized
import SearchPhrase.Proofs.Service.Surfaces

/-!
# Preferred locations

The place that a phrase names counts before the location that comes with a request, which counts
before the location of the service.  A location that comes with a request counts even if it is
blank: then nothing is preferred.
-/

namespace SearchPhrase

namespace RequestBody

/-- What a request says about the location to prefer. -/
inductive Preference where
  /-- It has no field for the location. -/
  | absent
  /-- The field is there, with no location in it. -/
  | null
  /-- The field holds a location. -/
  | text (location : String)
deriving DecidableEq, Repr

namespace Preference

/-- The location of a preference. -/
def location? : Preference → Option String
  | text location => some location
  | absent | null => none

/-- The field of a request body for a preference, if it has one. -/
def fields : Preference → List (String × Json)
  | absent => []
  | null => [("defaultLocation", .null)]
  | text location => [("defaultLocation", .string location)]

end Preference
end RequestBody

open RequestBody (Preference)

/-- A request that posts a phrase with a preference.  The body may be laid out and escaped in any
way, and may give its fields in either order. -/
structure Request.Prefers (request : Request) (phrase : String) (preference : Preference) :
    Prop where
  /-- The request is a post. -/
  method : request.method = .post
  /-- It is sent to where phrases are interpreted. -/
  path : request.path = "/api/v1/interpret"
  /-- Its body is declared to be JSON. -/
  json : request.contentType.any MediaType.isJson = true
  /-- Its body spells an object with the fields. -/
  body : ∃ fields, fields.Perm (("query", .string phrase) :: preference.fields) ∧
    Json.tokens request.body.toList = Json.tokensOf (.object fields)

/-- The request with the phrase first in a body that is printed in the compact layout. -/
def Request.preferring (phrase : String) (preference : Preference) : Request :=
  ⟨.post, "/api/v1/interpret", some "application/json",
    String.ofList (Json.object (("query", .string phrase) :: preference.fields)).compact⟩

theorem Request.prefers_preferring (phrase : String) (preference : Preference) :
    (preferring phrase preference).Prefers phrase preference := by
  obtain ⟨method, path, json, -⟩ := Request.posts_compact phrase none
  refine ⟨method, path, json, _, .refl _, ?_⟩
  have plain : Json.HasNumerals (.object (("query", .string phrase) :: preference.fields)) := by
    cases preference <;> exact ⟨trivial, by trivial⟩
  rw [preferring, String.toList_ofList, Json.tokens_compact plain]

/-- A body is read from the tokens of its fields, in either order. -/
theorem RequestBody.ofTokens_preference
    {phrase : String}
    {preference : Preference}
    {given : List (String × Json)}
    (order : given.Perm (("query", .string phrase) :: preference.fields)) :
    ofTokens (Json.tokensOf (.object given)) = .ok ⟨phrase, preference.location?⟩ := by
  cases preference with
  | absent => exact @ofTokens_fields phrase none given order
  | text location => exact @ofTokens_fields phrase (some location) given order
  | null =>
      rcases List.perm_pair.1 order with rfl | rfl
      all_goals
        simp [Json.tokensOf, Json.fieldTokens, ofTokens, takeFields, takeField, takeColon,
          takeString, takeOptionalString, Preference.location?, Draft.finish, bind, Except.bind]

/-- A phrase that is posted with a preference is answered with the location of the preference, or
else with that of the service. -/
theorem Service.respond_of_prefers
    {request : Request}
    {phrase : String}
    {preference : Preference}
    (prefers : request.Prefers phrase preference)
    (service : Service) :
    service.respond request =
      success (answer phrase (preference.location?.or service.defaultLocation)) := by
  obtain ⟨fields, order, tokens⟩ := prefers.body
  have body : RequestBody.ofText request.body.toList = .ok ⟨phrase, preference.location?⟩ := by
    rw [RequestBody.ofText, tokens, RequestBody.ofTokens_preference order]
  exact respond_of_ofText prefers.method prefers.path prefers.json body service

namespace Interpretation

variable (interpretation : Interpretation)

/-- A place that is named is kept, whatever is preferred. -/
theorem preferLocation_of_isSome
    (location : Option String)
    (placed : interpretation.filters.location.isSome) :
    interpretation.preferLocation location = interpretation := by
  cases location with
  | none => rfl
  | some location =>
      have kept : interpretation.filters.preferLocation location = interpretation.filters := by
        obtain ⟨place, named⟩ := Option.isSome_iff_exists.1 placed
        simp [FilterRecord.preferLocation, named]
      rw [preferLocation, kept]

/-- A missing place is taken from the location that is preferred, without white space around it and
unless it is blank; nothing else changes. -/
theorem preferLocation_of_eq_none
    (location : Option String)
    (missing : interpretation.filters.location = none) :
    interpretation.preferLocation location =
      { interpretation with
        filters := { interpretation.filters with location := FilterRecord.tidied location } } := by
  obtain ⟨filters, interpretedAs, phrase⟩ := interpretation
  obtain ⟨_, _, _, _, _, _, _, _, _, _⟩ := filters
  obtain rfl := missing
  cases location with
  | none => rfl
  | some location =>
      rw [preferLocation, FilterRecord.preferLocation]
      by_cases blank : Text.trim location.toList = []
      · simp [FilterRecord.tidied, blank]
      · simp [FilterRecord.tidied, blank]

/-- A phrase names a place of the list as whole words, in any letter case. -/
def NamesPlace (phrase : String) : Prop :=
  ∃ place ∈ Locality.places, Occurs (Unicode.lowercase phrase.toList) place

theorem location_ofPhrase_eq_none_iff {phrase : String} :
    (ofPhrase phrase).filters.location = none ↔ ¬NamesPlace phrase := by
  have same : (ofPhrase phrase).filters.location =
      (Locality.read (Unicode.lowercase phrase.toList)).map Mention.name := rfl
  rw [same, Option.map_eq_none_iff, Locality.read_eq_none_iff, NamesPlace]
  push Not
  rfl

end Interpretation

/-- A response tells an interpretation, together with the fingerprint of its filters. -/
structure Response.Tells (response : Response) (interpretation : Interpretation) : Prop where
  /-- It is successful. -/
  status : response.status = 200
  /-- Its body spells the interpretation and the fingerprint. -/
  body : Json.parse? response.body.toList =
    some (.object (interpretation.jsonFields ++
      [("fingerprint", .string interpretation.filters.fingerprint.hex)]))
  /-- The filters, the summary and the phrase are read from the fields of the body, and so is the
  fingerprint of these filters. -/
  told : ∃ value, Json.parse? response.body.toList = some value ∧ interpretation.IsToldBy value ∧
    value.field? "fingerprint" = some (.string interpretation.filters.fingerprint.hex)

namespace Service

open Interpretation (NamesPlace)

theorem tells_success (phrase : String) (location : Option String) :
    (success (answer phrase location)).Tells
      ((Interpretation.ofPhrase phrase).preferLocation location) := by
  have body := parse?_answer phrase location
  refine ⟨rfl, body, _, body, ?_, ?_⟩
  · exact Interpretation.isToldBy_jsonFields_append _ (by simp [Json.lookup?])
  · rw [answer, Json.field?, answerFields, Json.lookup?_append]
    rfl

/-- A posted phrase that names a place is answered with what it means, and the answer is the same
whatever any request or service prefers.  Where it names none, the answer has the location of the
request, even if that is blank, or else that of the service, and is otherwise the same. -/
theorem respond_preferred (phrase : String) :
    (∀ (service : Service) request preference, Request.Prefers request phrase preference →
      (NamesPlace phrase → (service.respond request).Tells (.ofPhrase phrase)) ∧
      (¬NamesPlace phrase → (service.respond request).Tells
        { Interpretation.ofPhrase phrase with
          filters := { (Interpretation.ofPhrase phrase).filters with
            location := FilterRecord.tidied
              (preference.location?.or service.defaultLocation) } })) ∧
    (NamesPlace phrase → ∀ (service service' : Service) request request' preference preference',
      Request.Prefers request phrase preference → Request.Prefers request' phrase preference' →
        service.respond request = service'.respond request') := by
  have kept : NamesPlace phrase → ∀ location,
      (Interpretation.ofPhrase phrase).preferLocation location = .ofPhrase phrase := by
    intro names location
    apply Interpretation.preferLocation_of_isSome
    rw [Option.isSome_iff_ne_none]
    exact fun missing => Interpretation.location_ofPhrase_eq_none_iff.1 missing names
  refine ⟨fun service request preference prefers => ⟨fun names => ?_, fun nowhere => ?_⟩, ?_⟩
  · rw [respond_of_prefers prefers service, ← kept names]
    exact tells_success phrase _
  · have missing := Interpretation.location_ofPhrase_eq_none_iff.2 nowhere
    rw [respond_of_prefers prefers service,
      ← Interpretation.preferLocation_of_eq_none _ _ missing]
    exact tells_success phrase _
  · intro names service service' request request' preference preference' prefers prefers'
    rw [respond_of_prefers prefers, respond_of_prefers prefers', answer, answer, answerFields,
      answerFields, kept names, kept names]

/-- A blank location hides the one of the service, a null one does not, and neither has a part in
the answer to a phrase that names a place. -/
theorem respond_preferred_hidden :
    ¬NamesPlace "sofa" ∧ NamesPlace "sofa Napier" ∧
      (respond ⟨some "Taupo"⟩ (.preferring "sofa" (.text " "))).Tells
        { Interpretation.ofPhrase "sofa" with
          filters := { (Interpretation.ofPhrase "sofa").filters with location := none } } ∧
      (respond ⟨some " Taupo "⟩ (.preferring "sofa" .null)).Tells
        { Interpretation.ofPhrase "sofa" with
          filters := { (Interpretation.ofPhrase "sofa").filters with
            location := some "Taupo" } } ∧
      respond ⟨some "Taupo"⟩ (.preferring "sofa Napier" (.text " ")) =
        respond {} (.preferring "sofa Napier" .absent) := by
  have nowhere : ¬NamesPlace "sofa" := by
    rw [← Interpretation.location_ofPhrase_eq_none_iff]
    decide +kernel
  have somewhere : NamesPlace "sofa Napier" := by
    rw [← not_not (a := NamesPlace "sofa Napier"),
      ← Interpretation.location_ofPhrase_eq_none_iff]
    decide +kernel
  have blank := ((respond_preferred "sofa").1 ⟨some "Taupo"⟩ _ _
    (Request.prefers_preferring _ (.text " "))).2 nowhere
  have null := ((respond_preferred "sofa").1 ⟨some " Taupo "⟩ _ _
    (Request.prefers_preferring _ .null)).2 nowhere
  have unset : FilterRecord.tidied (some " ") = none := by decide
  have trimmed : FilterRecord.tidied (some " Taupo ") = some "Taupo" := by decide
  rw [Preference.location?, Option.some_or, unset] at blank
  rw [Preference.location?, Option.none_or, trimmed] at null
  exact ⟨nowhere, somewhere, blank, null, (respond_preferred "sofa Napier").2 somewhere
    _ _ _ _ _ _ (Request.prefers_preferring _ _) (Request.prefers_preferring _ _)⟩

end Service
end SearchPhrase
