import SearchPhrase.Json.Basic
import SearchPhrase.Json.Token

/-!
# Reading JSON

A value is read from tokens by a machine that keeps the arrays and objects that have been opened but
not closed yet.  The machine takes one token at a time, so that it ends with the tokens.
-/

namespace SearchPhrase
namespace Json

/-- An array or object that is still open. -/
inductive Frame where
  /-- An array with the items so far, the latest first. -/
  | array (items : List Json)
  /-- An object with the fields so far, the latest first. -/
  | object (fields : List (String × Json))
  /-- An object whose next field has a name but no value yet. -/
  | field (fields : List (String × Json)) (name : String)

/-- What may come next. -/
inductive Expectation where
  /-- A value. -/
  | value
  /-- A value, or the end of the array that has just been opened. -/
  | firstItem
  /-- The name of a field. -/
  | name
  /-- The name of a field, or the end of the object that has just been opened. -/
  | firstName
  /-- The colon after the name of a field. -/
  | colon
  /-- A comma, or the end of the innermost array or object. -/
  | separator
deriving DecidableEq

/-- What the machine has read so far. -/
inductive Progress where
  /-- Some arrays and objects are open, the innermost first. -/
  | reading (stack : List Frame) (next : Expectation)
  /-- A whole value has been read. -/
  | done (value : Json)
  /-- The tokens do not begin a value. -/
  | failed

namespace Progress

/-- Go on after a value has been read in full. -/
def complete (value : Json) : List Frame → Progress
  | [] => done value
  | .array items :: stack => reading (.array (value :: items) :: stack) .separator
  | .field fields name :: stack => reading (.object ((name, value) :: fields) :: stack) .separator
  | .object _ :: _ => failed

/-- Go on after the token that begins a value. -/
def beginValue (strict : Bool) (stack : List Frame) : Token → Progress
  | .openArray => reading (.array [] :: stack) .firstItem
  | .openObject => reading (.object [] :: stack) .firstName
  | .null => complete .null stack
  | .bool value => complete (.bool value) stack
  | .number literal => complete (.number literal) stack
  | .string (some text) => complete (.string (String.ofList text)) stack
  | .string none => if strict then failed else complete (.string "") stack
  | _ => failed

/-- Go on after the name of a field. -/
def beginField (strict : Bool) (stack : List Frame) (text : Option Text) : Progress :=
  match stack, text with
  | .object fields :: outer, some name =>
      reading (.field fields (String.ofList name) :: outer) .colon
  | .object fields :: outer, none =>
      if strict then failed else reading (.field fields "" :: outer) .colon
  | _, _ => failed

/-- Close the innermost array. -/
def closeArray : List Frame → Progress
  | .array items :: stack => complete (.array items.reverse) stack
  | _ => failed

/-- Close the innermost object. -/
def closeObject : List Frame → Progress
  | .object fields :: stack => complete (.object fields.reverse) stack
  | _ => failed

/-- Go on after a comma. -/
def afterComma : List Frame → Progress
  | .array items :: stack => reading (.array items :: stack) .value
  | .object fields :: stack => reading (.object fields :: stack) .name
  | _ => failed

/-- Go on after one more token. -/
def step (strict : Bool) (stack : List Frame) : Expectation → Token → Progress
  | .value, token => beginValue strict stack token
  | .firstItem, .closeArray => closeArray stack
  | .firstItem, token => beginValue strict stack token
  | .name, .string text => beginField strict stack text
  | .firstName, .string text => beginField strict stack text
  | .firstName, .closeObject => closeObject stack
  | .colon, .colon => reading stack .value
  | .separator, .comma => afterComma stack
  | .separator, .closeArray => closeArray stack
  | .separator, .closeObject => closeObject stack
  | _, _ => failed

end Progress

/-- The value that some tokens begin with, after what has been read already, and the tokens after
it. -/
def readFrom (strict : Bool) (stack : List Frame) (next : Expectation) :
    List Token → Option (Json × List Token)
  | [] => none
  | token :: rest =>
      match Progress.step strict stack next token with
      | .reading stack next => readFrom strict stack next rest
      | .done value => some (value, rest)
      | .failed => none

/-- The value that some tokens begin with, and the tokens after it.  A strict reading refuses
strings without a text; another one, for values that are passed over, lets them stand. -/
def read? (strict : Bool) (tokens : List Token) : Option (Json × List Token) :=
  readFrom strict [] .value tokens

/-- The value that a whole text spells. -/
def parse? (text : Text) : Option Json :=
  match read? true (tokens text) with
  | some (value, []) => some value
  | _ => none

end Json
end SearchPhrase
