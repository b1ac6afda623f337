import SearchPhrase.Interpretation
import SearchPhrase.Record.Json
import SearchPhrase.Record.Param

/-!
# Sessions

A session carries one filter record from step to step.  A step that fails leaves the record as it
was.
-/

namespace SearchPhrase
namespace Session

/-- A step of a session. -/
inductive Step where
  /-- Start over from a phrase. -/
  | interpret (phrase : String)
  /-- Start over from the query of the record. -/
  | reinterpret
  /-- Prefer a location where the record has none. -/
  | preferLocation (location : String)
  /-- Start over from a query string. -/
  | readQuery (raw : String)
  /-- Start over from pairs of names and values. -/
  | readParams (pairs : List (String × String))
  /-- Read the record's own pairs followed by others. -/
  | extendParams (pairs : List (String × String))
  /-- Write the record as a query string and read it back. -/
  | roundTrip
  /-- Start over from a record in JSON. -/
  | replace (record : Json)

/-- Why a step fails. -/
inductive Failure where
  /-- Parameters do not make a record. -/
  | params (error : ParamError)
  /-- A value does not describe a record. -/
  | notARecord
deriving DecidableEq

/-- The record that a step leads to. -/
def Step.next (record : FilterRecord) : Step → Except Failure FilterRecord
  | interpret phrase => .ok (Interpretation.ofPhrase phrase).filters
  | reinterpret => .ok (Interpretation.ofPhrase record.query).filters
  | preferLocation location => .ok (record.preferLocation location)
  | readQuery raw => (FilterRecord.ofQueryString raw).mapError .params
  | readParams pairs => (FilterRecord.ofParams pairs).mapError .params
  | extendParams pairs => (FilterRecord.ofParams (record.params ++ pairs)).mapError .params
  | roundTrip => (FilterRecord.ofQueryString record.queryString).mapError .params
  | replace value =>
      match FilterRecord.ofJson? value with
      | some record => .ok record
      | none => .error .notARecord

/-- What a step reports: the record it led to, and whether this is the one before. -/
structure Report where
  /-- The record. -/
  record : FilterRecord
  /-- Whether the step changed nothing. -/
  unchanged : Bool
deriving DecidableEq

/-- The record after a step, which is the one before if the step fails. -/
def after (record : FilterRecord) (step : Step) : FilterRecord :=
  match step.next record with
  | .ok next => next
  | .error _ => record

/-- What a step reports about a record. -/
def report (record : FilterRecord) (step : Step) : Except Failure Report :=
  (step.next record).map fun next => ⟨next, next == record⟩

/-- The reports of several steps, one after another. -/
def reports (record : FilterRecord) : List Step → List (Except Failure Report)
  | [] => []
  | step :: steps => report record step :: reports (after record step) steps

/-- The reports of a whole session, which begins with the record of which nothing is set. -/
def run (steps : List Step) : List (Except Failure Report) :=
  reports {} steps

end Session
end SearchPhrase
