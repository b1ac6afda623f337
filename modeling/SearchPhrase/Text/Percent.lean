import SearchPhrase.Text.Hex
import SearchPhrase.Text.Utf8

/-!
# Percent coding

Unreserved characters stand for themselves and every other byte is written as a percent sign and two
hexadecimal digits.  Reading undoes this; a percent sign that is not followed by two hexadecimal
digits stands for itself.
-/

namespace SearchPhrase
namespace Percent

/-- Whether a character is written as it is. -/
def isUnreserved (c : Char) : Bool :=
  c.isAlphanum || c = '-' || c = '_' || c = '.' || c = '~'

/-- The escape of one byte. -/
def escapeByte (byte : UInt8) : Text :=
  '%' :: (Hex.ofByte byte).map Char.toUpper

/-- The coded form of one character. -/
def encodeChar (c : Char) : Text :=
  if isUnreserved c then [c] else (String.utf8EncodeChar c).flatMap escapeByte

/-- The coded form of a text. -/
def encode (text : Text) : Text :=
  text.flatMap encodeChar

/-- The byte that two hexadecimal digits name. -/
def byteOf? (high low : Char) : Option UInt8 :=
  match Hex.value? high, Hex.value? low with
  | some h, some l => some (UInt8.ofNat (16 * h + l))
  | _, _ => none

/-- The bytes that a coded text stands for. -/
def decodeBytes : Text → List UInt8
  | [] => []
  | '%' :: high :: low :: rest =>
      match byteOf? high low with
      | some byte => byte :: decodeBytes rest
      | none => String.utf8EncodeChar '%' ++ decodeBytes (high :: low :: rest)
  | c :: rest => String.utf8EncodeChar c ++ decodeBytes rest

/-- A text with blanks for its plus signs. -/
def plusToBlank (text : Text) : Text :=
  text.map fun c => if c = '+' then ' ' else c

/-- The text of a coded form in which plus signs are blanks, if its bytes are well-formed. -/
def decode? (text : Text) : Option Text :=
  Utf8.decode? (decodeBytes (plusToBlank text))

/-- The text of a coded form in which plus signs are blanks, with replacement characters where its
bytes are ill-formed. -/
def decodeLossy (text : Text) : Text :=
  Utf8.decodeLossy (decodeBytes (plusToBlank text))

end Percent
end SearchPhrase
