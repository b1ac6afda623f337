import SearchPhrase.Text.Basic

/-!
# Hexadecimal digits

The value of a hexadecimal digit, which may be in either case, and bytes as pairs of digits in lower
case.
-/

namespace SearchPhrase
namespace Hex

/-- The value of a hexadecimal digit. -/
def value? (c : Char) : Option Nat :=
  if '0' ≤ c ∧ c ≤ '9' then some (c.toNat - '0'.toNat)
  else if 'a' ≤ c ∧ c ≤ 'f' then some (c.toNat - 'a'.toNat + 10)
  else if 'A' ≤ c ∧ c ≤ 'F' then some (c.toNat - 'A'.toNat + 10)
  else none

/-- A digit has the value that it is written for. -/
theorem value?_digitChar : ∀ d < 16, value? (Nat.digitChar d) = some d := by
  decide

/-- A capital digit has the same value. -/
theorem value?_toUpper_digitChar : ∀ d < 16, value? (Nat.digitChar d).toUpper = some d := by
  decide

/-- The two digits of a byte. -/
def ofByte (byte : UInt8) : Text :=
  [Nat.digitChar (byte.toNat / 16), Nat.digitChar (byte.toNat % 16)]

/-- The digits of a string of bytes. -/
def ofBytes (bytes : List UInt8) : Text :=
  bytes.flatMap ofByte

@[simp] theorem length_ofBytes (bytes : List UInt8) :
    (ofBytes bytes).length = 2 * bytes.length := by
  induction bytes with
  | nil => rfl
  | cons byte rest ih =>
      rw [ofBytes, List.flatMap_cons, List.length_append, ← ofBytes, ih, ofByte, List.length_cons,
        List.length_cons, List.length_cons, List.length_nil]
      omega

end Hex
end SearchPhrase
