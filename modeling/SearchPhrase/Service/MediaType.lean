import SearchPhrase.Text.Basic

/-!
# Media types

The grammar of content types, as far as it decides whether a body is declared to be JSON: a type, a
slash, a subtype with an optional suffix, and parameters whose values may be quoted.
-/

namespace SearchPhrase
namespace MediaType

/-- Whether a character may be part of a type, a subtype, or an unquoted parameter. -/
def isToken (c : Char) : Bool :=
  c.isAlphanum || "!#$%&'*+-.^_|~".toList.contains c || c == Char.ofNat 0x60

/-- Whether a character may be part of a header that is read as text. -/
def isVisible (c : Char) : Bool :=
  decide (32 ≤ c.toNat) && decide (c.toNat < 127)

/-- Where the reader of parameters is. -/
inductive Place where
  /-- Before the name of a parameter. -/
  | start
  /-- Within a name. -/
  | name
  /-- Before a value. -/
  | valueStart
  /-- Within an unquoted value. -/
  | value
  /-- Right after the opening quotation mark of a value. -/
  | quoteStart
  /-- Within a quoted value. -/
  | quoted
  /-- After a quoted value. -/
  | afterQuote
deriving DecidableEq

/-- Where the reader of parameters is after one more character. -/
def Place.next? : Place → Char → Option Place
  | start, c => if c = ' ' then some start else if isToken c then some name else none
  | name, c => if c = '=' then some valueStart else if isToken c then some name else none
  | valueStart, c => if c = '"' then some quoteStart else if isToken c then some value else none
  | value, c => if c = ';' then some start else if isToken c then some value else none
  | quoteStart, _ => some quoted
  | quoted, c => if c = '"' then some afterQuote else some quoted
  | afterQuote, c => if c = ';' then some start else if c = ' ' then some afterQuote else none

/-- Whether parameters may end at a place. -/
def Place.mayEnd : Place → Bool
  | start | valueStart | value | afterQuote => true
  | name | quoteStart | quoted => false

/-- Whether a text goes on as parameters from a place. -/
def areParameters (place : Place) : Text → Bool
  | [] => place.mayEnd
  | c :: rest =>
      match place.next? c with
      | some place => areParameters place rest
      | none => false

/-- Whether what follows a subtype is nothing, or a semicolon with parameters after it. A blank may
stand before a parameter, but not between the subtype and the semicolon. -/
def isTail : Text → Bool
  | [] => true
  | c :: rest => c == ';' && areParameters .start rest

/-- A subtype cut at its last plus sign, which must not be its first character. -/
def cutSuffix (subtype : Text) : Text × Option Text :=
  match Text.cutAt '+' subtype.reverse with
  | (suffix, some stem) =>
      if stem.isEmpty then (subtype, none) else (stem.reverse, some suffix.reverse)
  | (_, none) => (subtype, none)

/-- Whether a subtype is JSON or based on it. -/
def isJsonSubtype (subtype : Text) : Bool :=
  let json := "json".toList
  let (stem, suffix) := cutSuffix subtype
  stem == json || suffix == some json

/-- Whether a content type declares JSON, in either case. -/
def isJson (contentType : String) : Bool :=
  let text := contentType.toList.map Char.toLower
  let (kind, rest) := Text.cutAt '/' text
  match rest with
  | none => false
  | some rest =>
      text.all isVisible && kind == "application".toList &&
        isJsonSubtype (rest.takeWhile isToken) && isTail (rest.dropWhile isToken)

end MediaType
end SearchPhrase
