import SearchPhrase.Text.Utf8

/-!
# Reading UTF-8 back

The scan of a byte string finds the characters whose bytes it is made of.
-/

namespace SearchPhrase
namespace Utf8

theorem lead?_single {byte : UInt8} (high : byte.toNat < 0x80) :
    lead? byte = some ⟨0, 0, 0, byte.toNat⟩ := by
  simp only [lead?, if_pos high]

theorem lead?_pair {byte : UInt8} (low : 0xC2 ≤ byte.toNat) (high : byte.toNat < 0xE0) :
    lead? byte = some ⟨1, 0x80, 0xBF, byte.toNat - 0xC0⟩ := by
  simp only [lead?, if_neg (show ¬byte.toNat < 0x80 by omega),
    if_neg (show ¬byte.toNat < 0xC2 by omega), if_pos high]

/-- The leading byte of three admits a second byte that neither makes the form overlong nor leads to
a surrogate. -/
theorem lead?_triple (byte : UInt8) (second : Nat) (low : 0xE0 ≤ byte.toNat)
    (high : byte.toNat < 0xF0) (secondLow : 0x80 ≤ second) (secondHigh : second ≤ 0xBF)
    (shortest : byte.toNat = 0xE0 → 0xA0 ≤ second)
    (noSurrogate : byte.toNat = 0xED → second ≤ 0x9F) :
    ∃ least greatest, lead? byte = some ⟨2, least, greatest, byte.toNat - 0xE0⟩ ∧
      least ≤ second ∧ second ≤ greatest := by
  simp only [lead?, if_neg (show ¬byte.toNat < 0x80 by omega),
    if_neg (show ¬byte.toNat < 0xC2 by omega), if_neg (show ¬byte.toNat < 0xE0 by omega),
    if_pos high]
  split
  · exact ⟨_, _, rfl, shortest ‹_›, secondHigh⟩
  split
  · exact ⟨_, _, rfl, secondLow, noSurrogate ‹_›⟩
  · exact ⟨_, _, rfl, secondLow, secondHigh⟩

/-- The leading byte of four admits a second byte that neither makes the form overlong nor leads
beyond the last code point. -/
theorem lead?_quadruple (byte : UInt8) (second : Nat) (low : 0xF0 ≤ byte.toNat)
    (high : byte.toNat ≤ 0xF4) (secondLow : 0x80 ≤ second) (secondHigh : second ≤ 0xBF)
    (shortest : byte.toNat = 0xF0 → 0x90 ≤ second)
    (withinRange : byte.toNat = 0xF4 → second ≤ 0x8F) :
    ∃ least greatest, lead? byte = some ⟨3, least, greatest, byte.toNat - 0xF0⟩ ∧
      least ≤ second ∧ second ≤ greatest := by
  simp only [lead?, if_neg (show ¬byte.toNat < 0x80 by omega),
    if_neg (show ¬byte.toNat < 0xC2 by omega), if_neg (show ¬byte.toNat < 0xE0 by omega),
    if_neg (show ¬byte.toNat = 0xE0 by omega), if_neg (show ¬byte.toNat = 0xED by omega),
    if_neg (show ¬byte.toNat < 0xF0 by omega)]
  split
  · exact ⟨_, _, rfl, shortest ‹_›, secondHigh⟩
  split
  · exact ⟨_, _, rfl, secondLow, secondHigh⟩
  · rw [if_pos (show byte.toNat = 0xF4 by omega)]
    exact ⟨_, _, rfl, secondLow, withinRange (by omega)⟩

theorem continuation_cons {count low high : Nat} {byte : UInt8}
    (fits : low ≤ byte.toNat ∧ byte.toNat ≤ high) (rest : List UInt8) :
    continuation (count + 1) low high (byte :: rest) =
      byte :: continuation count 0x80 0xBF rest := by
  rw [continuation, if_pos fits]

theorem scanAfter_eq_scan_drop (skip : Nat) (bytes : List UInt8) :
    scanAfter skip bytes = scan (bytes.drop skip) := by
  induction skip generalizing bytes with
  | zero => rfl
  | succ skip ih =>
      cases bytes with
      | nil => rfl
      | cons byte rest => rw [scanAfter, ih, List.drop_succ_cons]

/-- A leading byte with all the bytes that continue it is scanned as one character. -/
theorem scan_cons_append {byte : UInt8} {count low high bits : Nat} {tail rest : List UInt8}
    (leads : lead? byte = some ⟨count, low, high, bits⟩)
    (continues : continuation count low high (tail ++ rest) = tail)
    (complete : tail.length = count) :
    scan (byte :: (tail ++ rest)) = some (Char.ofNat (assemble bits tail)) :: scan rest := by
  rw [scan, scanAfter, leads]
  simp only [continues, complete, if_true, scanAfter_eq_scan_drop]
  rw [← complete, List.drop_left]

/-- The bytes of a character are scanned as that character. -/
theorem scan_encodeChar_append (c : Char) (rest : List UInt8) :
    scan (String.utf8EncodeChar c ++ rest) = some c :: scan rest := by
  have code : c.val.toNat = c.toNat := rfl
  have valid := c.valid
  rw [UInt32.isValidChar, Nat.isValidChar, code] at valid
  have whole (n : Nat) (same : n = c.toNat) : Char.ofNat n = c := by rw [same, Char.ofNat_toNat]
  have byte (n : Nat) : (UInt8.ofNat n).toNat = n % 256 := UInt8.toNat_ofNat'
  unfold String.utf8EncodeChar
  simp only [code]
  split
  · rw [List.singleton_append, ← List.nil_append rest,
      scan_cons_append (lead?_single (by rw [byte]; omega)) rfl rfl, assemble, List.foldl_nil,
      byte, whole _ (by omega), List.nil_append]
  split
  · rw [List.cons_append,
      scan_cons_append (lead?_pair (by rw [byte]; omega) (by rw [byte]; omega)) ?_ rfl, whole]
    · simp only [assemble, List.foldl_cons, List.foldl_nil, byte]
      omega
    · rw [List.singleton_append, continuation_cons (by rw [byte]; omega), continuation]
  split
  · obtain ⟨low, high, leads, fits⟩ :=
      lead?_triple (UInt8.ofNat (c.toNat / 4096 % 16 + 224)) (c.toNat / 64 % 64 + 128)
        (by rw [byte]; omega) (by rw [byte]; omega) (by omega) (by omega) (by rw [byte]; omega)
        (by rw [byte]; omega)
    rw [List.cons_append, scan_cons_append leads ?_ rfl, whole]
    · simp only [assemble, List.foldl_cons, List.foldl_nil, byte]
      omega
    · rw [List.cons_append, continuation_cons (by rw [byte]; omega), List.singleton_append,
        continuation_cons (by rw [byte]; omega), continuation]
  · obtain ⟨low, high, leads, fits⟩ :=
      lead?_quadruple (UInt8.ofNat (c.toNat / 262144 % 8 + 240)) (c.toNat / 4096 % 64 + 128)
        (by rw [byte]; omega) (by rw [byte]; omega) (by omega) (by omega) (by rw [byte]; omega)
        (by rw [byte]; omega)
    rw [List.cons_append, scan_cons_append leads ?_ rfl, whole]
    · simp only [assemble, List.foldl_cons, List.foldl_nil, byte]
      omega
    · rw [List.cons_append, continuation_cons (by rw [byte]; omega), List.cons_append,
        continuation_cons (by rw [byte]; omega), List.singleton_append,
        continuation_cons (by rw [byte]; omega), continuation]

/-- The scan of a text's bytes finds its characters. -/
@[simp] theorem scan_toBytes (text : Text) : scan (Text.toBytes text) = text.map some := by
  induction text with
  | nil => rfl
  | cons c rest ih => rw [Text.toBytes_cons, scan_encodeChar_append, ih, List.map_cons]

@[simp] theorem decode?_toBytes (text : Text) : decode? (Text.toBytes text) = some text := by
  rw [decode?, scan_toBytes]
  induction text with
  | nil => rfl
  | cons c rest ih => simp [ih]

@[simp] theorem decodeLossy_toBytes (text : Text) : decodeLossy (Text.toBytes text) = text := by
  simp [decodeLossy, Function.comp_def]

end Utf8
end SearchPhrase
