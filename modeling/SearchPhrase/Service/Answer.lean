import SearchPhrase.Interpretation
import SearchPhrase.Json.Printer
import SearchPhrase.Record.Fingerprint
import SearchPhrase.Service.MediaType
import SearchPhrase.Service.Message
import SearchPhrase.Service.RequestBody

/-!
# The search service

The service interprets phrases that are posted or given in a query, and reads filter records back
from query strings.  It may have a location of its own to prefer where a phrase names none; a
location that comes with a request takes its place even if it is blank.
-/

namespace SearchPhrase

/-- A service with the location that it prefers. -/
structure Service where
  /-- The location to prefer when a request gives none. -/
  defaultLocation : Option String := none

namespace Service

/-- The fields of the answer to a phrase: its interpretation and the fingerprint of the filters. -/
def answerFields (phrase : String) (location : Option String) : List (String × Json) :=
  let interpretation := (Interpretation.ofPhrase phrase).preferLocation location
  interpretation.jsonFields ++ [("fingerprint", .string interpretation.filters.fingerprint.hex)]

/-- The answer to a phrase, as a value. -/
def answer (phrase : String) (location : Option String) : Json :=
  .object (answerFields phrase location)

/-- A successful response with a value for its body. -/
def success (value : Json) : Response :=
  ⟨200, String.ofList value.compact⟩

/-- The status code of a fault in a body. -/
def faultStatus : RequestBody.Fault → Nat
  | .malformed => 400
  | .wrongShape => 422

/-- The response to a phrase that is posted. -/
def postInterpret (service : Service) (request : Request) : Response :=
  if request.contentType.any MediaType.isJson then
    match RequestBody.ofText request.body.toList with
    | .ok body => success (answer body.query (body.defaultLocation.or service.defaultLocation))
    | .error fault => ⟨faultStatus fault, ""⟩
  else ⟨415, ""⟩

/-- The response to a phrase in a query, which may be missing but not given twice. -/
def getInterpret (service : Service) (request : Request) : Response :=
  match Form.values "q" request.query with
  | [] => success (answer "" service.defaultLocation)
  | [phrase] => success (answer (String.ofList phrase) service.defaultLocation)
  | _ => ⟨400, ""⟩

/-- The response to a query string that is to be read as a record. -/
def getFilters (request : Request) : Response :=
  match FilterRecord.ofQueryString (String.ofList request.query) with
  | .ok record => success record.toJson
  | .error error => ⟨400, error.message⟩

/-- What the service offers. -/
inductive Resource where
  /-- A sign of life. -/
  | health
  /-- The interpretation of phrases. -/
  | interpretation
  /-- The reading of records. -/
  | filters
deriving DecidableEq, Repr

/-- The resource at a path, which has to be given exactly. -/
def resource? (path : String) : Option Resource :=
  if path = "/health" then some .health
  else if path = "/api/v1/interpret" then some .interpretation
  else if path = "/api/v1/filters" then some .filters
  else none

/-- The response to a request for a resource. -/
def get (service : Service) (request : Request) : Resource → Response
  | .health => ⟨200, ""⟩
  | .interpretation => service.getInterpret request
  | .filters => getFilters request

/-- The response to a request.  Asking what is allowed always succeeds; otherwise an unknown path
counts before a method that the resource does not have. -/
def respond (service : Service) (request : Request) : Response :=
  match request.method, resource? request.path with
  | .options, _ => ⟨200, ""⟩
  | _, none => ⟨404, ""⟩
  | .get, some resource => service.get request resource
  | .head, some resource => (service.get request resource).withoutBody
  | .post, some .interpretation => service.postInterpret request
  | _, some _ => ⟨405, ""⟩

end Service
end SearchPhrase
