import SearchPhrase.Text.Percent
import SearchPhrase.Text.Utf8.Lemmas

/-!
# Reading percent coding back

What has been coded is read back as it was, and a coded text holds none of the characters that mean
something in a query.
-/

namespace SearchPhrase
namespace Percent

theorem byteOf?_escapeByte (byte : UInt8) :
    byteOf? (Nat.digitChar (byte.toNat / 16)).toUpper (Nat.digitChar (byte.toNat % 16)).toUpper =
      some byte := by
  have below := byte.toNat_lt
  rw [byteOf?, Hex.value?_toUpper_digitChar _ (by omega), Hex.value?_toUpper_digitChar _ (by omega)]
  simp only [show 16 * (byte.toNat / 16) + byte.toNat % 16 = byte.toNat by omega,
    UInt8.ofNat_toNat]

theorem decodeBytes_escapeByte_append (byte : UInt8) (rest : Text) :
    decodeBytes (escapeByte byte ++ rest) = byte :: decodeBytes rest := by
  simp only [escapeByte, Hex.ofByte, List.map_cons, List.map_nil, List.cons_append, List.nil_append,
    decodeBytes, byteOf?_escapeByte]

theorem decodeBytes_escapes_append (bytes : List UInt8) (rest : Text) :
    decodeBytes (bytes.flatMap escapeByte ++ rest) = bytes ++ decodeBytes rest := by
  induction bytes with
  | nil => rfl
  | cons byte bytes ih =>
      rw [List.flatMap_cons, List.append_assoc, decodeBytes_escapeByte_append, ih, List.cons_append]

/-- A character other than the percent sign stands for its own bytes. -/
theorem decodeBytes_cons {c : Char} (plain : c ≠ '%') (rest : Text) :
    decodeBytes (c :: rest) = String.utf8EncodeChar c ++ decodeBytes rest := by
  rw [decodeBytes]
  rintro high low tail rfl
  exact absurd rfl plain

theorem decodeBytes_encodeChar_append (c : Char) (rest : Text) :
    decodeBytes (encodeChar c ++ rest) = String.utf8EncodeChar c ++ decodeBytes rest := by
  by_cases unreserved : isUnreserved c = true
  · have plain : c ≠ '%' := by
      rintro rfl
      exact absurd unreserved (by decide)
    rw [encodeChar, if_pos unreserved, List.singleton_append, decodeBytes_cons plain]
  · rw [encodeChar, if_neg unreserved, decodeBytes_escapes_append]

/-- The bytes of a coded text are those of the text. -/
theorem decodeBytes_encode_append (text rest : Text) :
    decodeBytes (encode text ++ rest) = Text.toBytes text ++ decodeBytes rest := by
  induction text with
  | nil => rfl
  | cons c text ih =>
      rw [encode, List.flatMap_cons, ← encode, List.append_assoc, decodeBytes_encodeChar_append, ih,
        Text.toBytes_cons, List.append_assoc]

theorem isUnreserved_toUpper_digitChar :
    ∀ d < 16, isUnreserved (Nat.digitChar d).toUpper = true := by
  decide

/-- An escape holds unreserved characters after its percent sign. -/
theorem isUnreserved_of_mem_escapeByte {byte : UInt8} {c : Char} (member : c ∈ escapeByte byte)
    (plain : c ≠ '%') : isUnreserved c = true := by
  have below := byte.toNat_lt
  simp only [escapeByte, Hex.ofByte, List.map_cons, List.map_nil, List.mem_cons, List.not_mem_nil,
    or_false] at member
  rcases member with rfl | rfl | rfl
  · exact absurd rfl plain
  · exact isUnreserved_toUpper_digitChar _ (by omega)
  · exact isUnreserved_toUpper_digitChar _ (by omega)

theorem isUnreserved_of_mem_encode {text : Text} {c : Char} (member : c ∈ encode text)
    (plain : c ≠ '%') : isUnreserved c = true := by
  obtain ⟨source, -, member⟩ := List.mem_flatMap.1 member
  by_cases unreserved : isUnreserved source = true
  · rw [encodeChar, if_pos unreserved, List.mem_singleton] at member
    exact member ▸ unreserved
  · rw [encodeChar, if_neg unreserved] at member
    obtain ⟨byte, -, member⟩ := List.mem_flatMap.1 member
    exact isUnreserved_of_mem_escapeByte member plain

/-- Of the characters that are not unreserved, a coded text holds only the percent sign. -/
theorem not_mem_encode {c : Char} (reserved : isUnreserved c = false) (plain : c ≠ '%')
    (text : Text) : c ∉ encode text := fun member => by
  simp [isUnreserved_of_mem_encode member plain] at reserved

/-- A text without plus signs is the same with blanks for them. -/
theorem plusToBlank_eq_self {text : Text} (absent : '+' ∉ text) : plusToBlank text = text := by
  refine (List.map_congr_left fun c member => ?_).trans (List.map_id text)
  exact if_neg fun plus : c = '+' => absent (plus ▸ member)

theorem decodeBytes_plusToBlank_encode (text : Text) :
    decodeBytes (plusToBlank (encode text)) = Text.toBytes text := by
  rw [plusToBlank_eq_self (not_mem_encode (by decide) (by decide) text)]
  simpa [decodeBytes] using decodeBytes_encode_append text []

@[simp] theorem decode?_encode (text : Text) : decode? (encode text) = some text := by
  rw [decode?, decodeBytes_plusToBlank_encode, Utf8.decode?_toBytes]

@[simp] theorem decodeLossy_encode (text : Text) : decodeLossy (encode text) = text := by
  rw [decodeLossy, decodeBytes_plusToBlank_encode, Utf8.decodeLossy_toBytes]

end Percent
end SearchPhrase
