import SearchPhrase.Text.Percent

/-!
# Requests and responses

The parts of a request that the service looks at, and what it answers with.  The query of a request
is a list of pairs with ampersands between them; bytes that are not well-formed become replacement
characters, so that every query can be read.
-/

namespace SearchPhrase

namespace Form

/-- The pair that a part of a query stands for; without an equals sign the value is empty. -/
def decodePair (part : Text) : Text × Text :=
  let (name, value) := Text.cutAt '=' part
  (Percent.decodeLossy name, Percent.decodeLossy (value.getD []))

/-- The pairs of a query. -/
def pairs (query : Text) : List (Text × Text) :=
  ((List.splitOn '&' query).filter fun part => !part.isEmpty).map decodePair

/-- The values of a given name. -/
def values (name : String) (query : Text) : List Text :=
  ((pairs query).filter fun pair => pair.1 == name.toList).map Prod.snd

end Form

/-- The methods that the service tells apart. -/
inductive Method where
  /-- Ask for a resource. -/
  | get
  /-- Ask for a resource without its body. -/
  | head
  /-- Send a body. -/
  | post
  /-- Ask what is allowed. -/
  | options
  /-- Anything else. -/
  | other
deriving DecidableEq, Repr

namespace Method

/-- The method of a given name. -/
def ofName (name : String) : Method :=
  if name = "GET" then get
  else if name = "HEAD" then head
  else if name = "POST" then post
  else if name = "OPTIONS" then options
  else other

end Method

/-- A request to the service. -/
structure Request where
  /-- What is to be done. -/
  method : Method
  /-- The path with an optional query. -/
  uri : String
  /-- The type of the body. -/
  contentType : Option String := none
  /-- The body. -/
  body : String := ""

namespace Request

/-- The path and the query of a request; a fragment belongs to neither. -/
def target (request : Request) : Text × Option Text :=
  Text.cutAt '?' (Text.cutAt '#' request.uri.toList).1

/-- The path of a request. -/
def path (request : Request) : String :=
  String.ofList request.target.1

/-- The query of a request, which is empty if there is none. -/
def query (request : Request) : Text :=
  request.target.2.getD []

end Request

/-- An answer of the service. -/
structure Response where
  /-- The status code. -/
  status : Nat
  /-- The body. -/
  body : String := ""
deriving DecidableEq, Repr

namespace Response

/-- The answer without its body. -/
def withoutBody (response : Response) : Response :=
  { response with body := "" }

end Response
end SearchPhrase
