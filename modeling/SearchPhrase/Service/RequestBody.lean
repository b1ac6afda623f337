import SearchPhrase.Json.Range
import SearchPhrase.Json.Reader

/-!
# Bodies of interpretation requests

A request body is a JSON object with a phrase and perhaps a location to prefer, or an array of the
two. It is read from left to right: the first fault decides whether the body is malformed or has the
wrong shape, and nothing after a complete body is looked at.
-/

namespace SearchPhrase

/-- What an interpretation request asks for. -/
structure RequestBody where
  /-- The phrase. -/
  query : String
  /-- The location to prefer. -/
  defaultLocation : Option String
deriving DecidableEq, Repr

namespace RequestBody

/-- Why a body is refused. -/
inductive Fault where
  /-- The body is not JSON. -/
  | malformed
  /-- The body is JSON but no request. -/
  | wrongShape
deriving DecidableEq, Repr

/-- What has been read of an object so far. -/
structure Draft where
  /-- The phrase. -/
  query : Option String := none
  /-- The location to prefer, which may also be given as null. -/
  defaultLocation : Option (Option String) := none

open Json (Token)

/-- The fault of a token that stands where something else is wanted: a value of another kind has the
wrong shape, and anything that begins no value is malformed. -/
def faultOf : Token → Fault
  | .null | .bool _ | .openArray | .openObject | .string (some _) => .wrongShape
  | .number literal => if Json.isInRange literal then .wrongShape else .malformed
  | _ => .malformed

/-- The string at the start of some tokens, and the tokens after it. -/
def takeString : List Token → Except Fault (String × List Token)
  | .string (some text) :: rest => .ok (String.ofList text, rest)
  | token :: _ => .error (faultOf token)
  | [] => .error .malformed

/-- The string or null at the start of some tokens, and the tokens after it. -/
def takeOptionalString : List Token → Except Fault (Option String × List Token)
  | .null :: rest => .ok (none, rest)
  | tokens => (takeString tokens).map fun (text, rest) => (some text, rest)

/-- The tokens after a colon. -/
def takeColon : List Token → Except Fault (List Token)
  | .colon :: rest => .ok rest
  | _ => .error .malformed

/-- The tokens after a value that is passed over. -/
def skipValue (tokens : List Token) : Except Fault (List Token) :=
  match Json.read? false tokens with
  | some (_, rest) => .ok rest
  | none => .error .malformed

/-- The draft after the field of a given name, and the tokens after it.  A field that is given again
has the wrong shape before its value is looked at. -/
def takeField (draft : Draft) (name : Text) (tokens : List Token) :
    Except Fault (Draft × List Token) :=
  if name = "query".toList then
    if draft.query.isSome then .error .wrongShape
    else do
      let tokens ← takeColon tokens
      let (query, rest) ← takeString tokens
      .ok ({ draft with query := some query }, rest)
  else if name = "defaultLocation".toList then
    if draft.defaultLocation.isSome then .error .wrongShape
    else do
      let tokens ← takeColon tokens
      let (location, rest) ← takeOptionalString tokens
      .ok ({ draft with defaultLocation := some location }, rest)
  else do
    let tokens ← takeColon tokens
    let rest ← skipValue tokens
    .ok (draft, rest)

/-- The request of a complete object. -/
def Draft.finish (draft : Draft) : Except Fault RequestBody :=
  match draft.query with
  | some query => .ok ⟨query, draft.defaultLocation.getD none⟩
  | none => .error .wrongShape

/-- The request of the fields that some tokens begin with, of which there are at most so many. -/
def takeFields : Nat → Draft → List Token → Except Fault RequestBody
  | fuel + 1, draft, .string (some name) :: rest => do
      let (draft, rest) ← takeField draft name rest
      match rest with
      | .comma :: rest => takeFields fuel draft rest
      | .closeObject :: _ => draft.finish
      | _ => .error .malformed
  | _, _, _ => .error .malformed

/-- The request of the items that some tokens begin with. -/
def takeItems : List Token → Except Fault RequestBody
  | .closeArray :: _ => .error .wrongShape
  | tokens => do
      let (query, rest) ← takeString tokens
      match rest with
      | .closeArray :: _ => .error .wrongShape
      | .comma :: .closeArray :: _ => .error .malformed
      | .comma :: rest =>
          let (location, rest) ← takeOptionalString rest
          match rest with
          | .closeArray :: _ => .ok ⟨query, location⟩
          | _ => .error .malformed
      | _ => .error .malformed

/-- The request that some tokens begin with. -/
def ofTokens : List Token → Except Fault RequestBody
  | .openObject :: .closeObject :: _ => .error .wrongShape
  | .openObject :: rest => takeFields rest.length {} rest
  | .openArray :: rest => takeItems rest
  | token :: _ => .error (faultOf token)
  | [] => .error .malformed

/-- The request that a body spells. -/
def ofText (body : Text) : Except Fault RequestBody :=
  ofTokens (Json.tokens body)

end RequestBody
end SearchPhrase
