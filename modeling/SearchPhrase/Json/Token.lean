import SearchPhrase.Text.Hex

/-!
# JSON tokens

The lexical elements of JSON text.  A text that stops being well-formed yields the tokens before
that point and then a fault, so that a reader that has what it needs never looks at what follows.
-/

namespace SearchPhrase
namespace Json

/-- A lexical element of JSON text. -/
inductive Token where
  /-- An opening bracket. -/
  | openArray
  /-- A closing bracket. -/
  | closeArray
  /-- An opening brace. -/
  | openObject
  /-- A closing brace. -/
  | closeObject
  /-- A colon. -/
  | colon
  /-- A comma. -/
  | comma
  /-- The null value. -/
  | null
  /-- A truth value. -/
  | bool (value : Bool)
  /-- A number as it is spelled. -/
  | number (literal : Text)
  /-- A string, which has no text if it escapes one half of a surrogate pair alone. -/
  | string (text : Option Text)
  /-- Something that is no lexical element. -/
  | fault
deriving DecidableEq

/-- White space between tokens. -/
def isBlank (c : Char) : Bool :=
  c = ' ' || c = '\t' || c = '\n' || c = '\r'

/-- The value of four hexadecimal digits. -/
def hex4? (a b c d : Char) : Option Nat := do
  let a ← Hex.value? a
  let b ← Hex.value? b
  let c ← Hex.value? c
  let d ← Hex.value? d
  some (((a * 16 + b) * 16 + c) * 16 + d)

/-- The code that a short escape stands for. -/
def shortEscape? (c : Char) : Option Nat :=
  if c = '"' ∨ c = '\\' ∨ c = '/' then some c.toNat
  else if c = 'b' then some 8
  else if c = 'f' then some 12
  else if c = 'n' then some 10
  else if c = 'r' then some 13
  else if c = 't' then some 9
  else none

/-- The body of a string: the codes of its characters and escapes, and its length in the text. -/
structure Body where
  /-- The codes, of which those of escapes may be halves of surrogate pairs. -/
  codes : List Nat
  /-- The number of characters up to and including the closing quotation mark. -/
  length : Nat

/-- The body with one more code in front, written in so many characters. -/
def Body.push (code length : Nat) (body : Body) : Body :=
  ⟨code :: body.codes, body.length + length⟩

/-- The body of the string that a text continues with. -/
def body? : Text → Option Body
  | [] => none
  | '"' :: _ => some ⟨[], 1⟩
  | '\\' :: 'u' :: a :: b :: c :: d :: rest =>
      match hex4? a b c d with
      | some code => (body? rest).map (Body.push code 6)
      | none => none
  | '\\' :: c :: rest =>
      match shortEscape? c with
      | some code => (body? rest).map (Body.push code 2)
      | none => none
  | c :: rest =>
      if c.toNat < 32 ∨ c = '\\' then none else (body? rest).map (Body.push c.toNat 1)

/-- Whether a code is the first half of a surrogate pair. -/
def isHighSurrogate (code : Nat) : Bool :=
  decide (0xD800 ≤ code) && decide (code < 0xDC00)

/-- Whether a code is the second half of a surrogate pair. -/
def isLowSurrogate (code : Nat) : Bool :=
  decide (0xDC00 ≤ code) && decide (code < 0xE000)

/-- The code point of a surrogate pair. -/
def pairCode (high low : Nat) : Nat :=
  0x10000 + (high - 0xD800) * 0x400 + (low - 0xDC00)

/-- The text of a list of codes, in which surrogates have to come in pairs. -/
def textOfCodes? : List Nat → Option Text
  | [] => some []
  | high :: low :: rest =>
      if isHighSurrogate high then
        if isLowSurrogate low then
          (textOfCodes? rest).map (Char.ofNat (pairCode high low) :: ·)
        else none
      else if isLowSurrogate high then none
      else (textOfCodes? (low :: rest)).map (Char.ofNat high :: ·)
  | [code] =>
      if isHighSurrogate code || isLowSurrogate code then none else some [Char.ofNat code]

/-- The digits at the start of a text, which must not be missing. -/
def digits? (text : Text) : Option Text :=
  let digits := text.takeWhile Char.isDigit
  if digits.isEmpty then none else some digits

/-- The whole part of a number, in which a zero is followed by no other digit. -/
def wholePart? (text : Text) : Option Text := do
  let digits ← digits? text
  if digits.head? = some '0' ∧ digits ≠ ['0'] then none else some digits

/-- The fraction of a number, which may be missing. -/
def fractionPart? : Text → Option Text
  | '.' :: rest => (digits? rest).map ('.' :: ·)
  | _ => some []

/-- The sign at the start of a text, which may be missing. -/
def signPart : Text → Text
  | '+' :: _ => ['+']
  | '-' :: _ => ['-']
  | _ => []

/-- The exponent of a number, which may be missing. -/
def exponentPart? : Text → Option Text
  | [] => some []
  | mark :: rest =>
      if mark = 'e' ∨ mark = 'E' then
        (digits? (rest.drop (signPart rest).length)).map fun digits =>
          mark :: (signPart rest ++ digits)
      else some []

/-- The number at the start of a text. -/
def number? (text : Text) : Option Text := do
  let sign := if text.head? = some '-' then ['-'] else []
  let afterSign := text.drop sign.length
  let whole ← wholePart? afterSign
  let afterWhole := afterSign.drop whole.length
  let fraction ← fractionPart? afterWhole
  let exponent ← exponentPart? (afterWhole.drop fraction.length)
  some (sign ++ whole ++ fraction ++ exponent)

/-- The token at the start of a text that begins with no white space, and its length. -/
def token? : Text → Option (Token × Nat)
  | [] => none
  | '[' :: _ => some (.openArray, 1)
  | ']' :: _ => some (.closeArray, 1)
  | '{' :: _ => some (.openObject, 1)
  | '}' :: _ => some (.closeObject, 1)
  | ':' :: _ => some (.colon, 1)
  | ',' :: _ => some (.comma, 1)
  | 'n' :: 'u' :: 'l' :: 'l' :: _ => some (.null, 4)
  | 't' :: 'r' :: 'u' :: 'e' :: _ => some (.bool true, 4)
  | 'f' :: 'a' :: 'l' :: 's' :: 'e' :: _ => some (.bool false, 5)
  | '"' :: rest => (body? rest).map fun body => (.string (textOfCodes? body.codes), body.length + 1)
  | text => (number? text).map fun literal => (.number literal, literal.length)

/-- The tokens of a text, of which some first characters belong to a token that is already listed.
-/
def tokensAfter : Nat → Text → List Token
  | _, [] => []
  | skip + 1, _ :: rest => tokensAfter skip rest
  | 0, c :: rest =>
      if isBlank c then tokensAfter 0 rest
      else
        match token? (c :: rest) with
        | some (token, length) => token :: tokensAfter (length - 1) rest
        | none => [.fault]

/-- The tokens of a text. -/
def tokens (text : Text) : List Token :=
  tokensAfter 0 text

end Json
end SearchPhrase
