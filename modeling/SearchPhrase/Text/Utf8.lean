import SearchPhrase.Text.Basic

/-!
# UTF-8

The byte form of a text, in which positions are counted, and two readers of bytes: a strict one that
refuses ill-formed input, and a lenient one that puts U+FFFD for each ill-formed part.  Both come
from one scan, which cuts the bytes into well-formed sequences and maximal ill-formed parts.
-/

namespace SearchPhrase
namespace Text

/-- The UTF-8 bytes of a text. -/
def toBytes (text : Text) : List UInt8 :=
  text.flatMap String.utf8EncodeChar

/-- The number of UTF-8 bytes of a text. -/
def byteLength : Text → Nat
  | [] => 0
  | c :: rest => c.utf8Size + byteLength rest

/-- The text from a byte offset on, which is meant to lie between two characters. -/
def dropBytes : Nat → Text → Text
  | _, [] => []
  | offset, c :: rest =>
      if offset = 0 then c :: rest else dropBytes (offset - c.utf8Size) rest

@[simp] theorem toBytes_nil : toBytes [] = [] := rfl

@[simp] theorem toBytes_cons (c : Char) (rest : Text) :
    toBytes (c :: rest) = String.utf8EncodeChar c ++ toBytes rest := rfl

@[simp] theorem toBytes_append (first second : Text) :
    toBytes (first ++ second) = toBytes first ++ toBytes second := by
  simp [toBytes]

@[simp] theorem byteLength_nil : byteLength [] = 0 := rfl

@[simp] theorem byteLength_cons (c : Char) (rest : Text) :
    byteLength (c :: rest) = c.utf8Size + byteLength rest := rfl

/-- Lengths count the bytes of the byte form. -/
@[simp] theorem length_toBytes (text : Text) : (toBytes text).length = byteLength text := by
  induction text with
  | nil => rfl
  | cons c rest ih => simp [ih]

@[simp] theorem byteLength_append (first second : Text) :
    byteLength (first ++ second) = byteLength first + byteLength second := by
  induction first with
  | nil => simp
  | cons c rest ih => simp [ih, Nat.add_assoc]

@[simp] theorem byteLength_reverse (text : Text) : byteLength text.reverse = byteLength text := by
  induction text with
  | nil => rfl
  | cons c rest ih => simp [ih, Nat.add_comm]

/-- Dropping the bytes of a first part leaves the second. -/
@[simp] theorem dropBytes_byteLength_append (first second : Text) :
    dropBytes (byteLength first) (first ++ second) = second := by
  induction first with
  | nil => cases second <;> simp [dropBytes]
  | cons c rest ih =>
      have positive := c.utf8Size_pos
      simp [dropBytes, ih]
      omega

end Text

namespace Utf8

/-- What a leading byte announces: how many bytes continue it, the range of the first of these, and
the bits that it contributes itself. -/
structure Lead where
  /-- The number of continuation bytes. -/
  count : Nat
  /-- The least first continuation byte. -/
  low : Nat
  /-- The greatest first continuation byte. -/
  high : Nat
  /-- The leading bits of the code point. -/
  bits : Nat

/-- The announcement of a leading byte, if it can begin a well-formed sequence.  The ranges leave
out overlong forms, surrogates and what lies beyond the last code point. -/
def lead? (byte : UInt8) : Option Lead :=
  let b := byte.toNat
  if b < 0x80 then some ⟨0, 0, 0, b⟩
  else if b < 0xC2 then none
  else if b < 0xE0 then some ⟨1, 0x80, 0xBF, b - 0xC0⟩
  else if b = 0xE0 then some ⟨2, 0xA0, 0xBF, b - 0xE0⟩
  else if b = 0xED then some ⟨2, 0x80, 0x9F, b - 0xE0⟩
  else if b < 0xF0 then some ⟨2, 0x80, 0xBF, b - 0xE0⟩
  else if b = 0xF0 then some ⟨3, 0x90, 0xBF, b - 0xF0⟩
  else if b < 0xF4 then some ⟨3, 0x80, 0xBF, b - 0xF0⟩
  else if b = 0xF4 then some ⟨3, 0x80, 0x8F, b - 0xF0⟩
  else none

/-- The longest run of bytes, up to a count, that may continue a sequence; the bounds are those of
the first byte, later ones range over all continuation bytes. -/
def continuation : (count low high : Nat) → List UInt8 → List UInt8
  | 0, _, _, _ => []
  | _ + 1, _, _, [] => []
  | count + 1, low, high, byte :: rest =>
      if low ≤ byte.toNat ∧ byte.toNat ≤ high then
        byte :: continuation count 0x80 0xBF rest
      else []

/-- The code point that leading bits and continuation bytes make up. -/
def assemble (bits : Nat) (tail : List UInt8) : Nat :=
  tail.foldl (fun code byte => code * 64 + (byte.toNat - 0x80)) bits

/-- The parts of a byte string after some bytes that belong to the part before: each part is a
character, or `none` for a maximal part that begins no well-formed sequence. -/
def scanAfter : Nat → List UInt8 → List (Option Char)
  | _, [] => []
  | skip + 1, _ :: rest => scanAfter skip rest
  | 0, byte :: rest =>
      match lead? byte with
      | none => none :: scanAfter 0 rest
      | some lead =>
          let tail := continuation lead.count lead.low lead.high rest
          let part :=
            if tail.length = lead.count then some (Char.ofNat (assemble lead.bits tail)) else none
          part :: scanAfter tail.length rest

/-- The parts of a byte string. -/
def scan (bytes : List UInt8) : List (Option Char) :=
  scanAfter 0 bytes

/-- The text of a well-formed byte string. -/
def decode? (bytes : List UInt8) : Option Text :=
  (scan bytes).mapM id

/-- The character that stands for an ill-formed part. -/
def replacement : Char := Char.ofNat 0xFFFD

/-- The text of any byte string, with a replacement character for each ill-formed part. -/
def decodeLossy (bytes : List UInt8) : Text :=
  (scan bytes).map fun part => part.getD replacement

end Utf8
end SearchPhrase
