import SearchPhrase.Text.Basic

/-!
# Whole-number literals

Decimal numerals in ASCII digits, and the literals that external parameters may use for a number of
a given width: an optional plus sign, then digits, with a value that fits.
-/

namespace SearchPhrase
namespace Text

/-- The decimal numeral of a number. -/
def numeral (n : Nat) : Text :=
  Nat.toDigits 10 n

/-- The value of a non-empty string of ASCII digits. -/
def natural? (text : Text) : Option Nat :=
  if !text.isEmpty && text.all Char.isDigit then some (Nat.ofDigitChars 10 text 0) else none

theorem numeral_ne_nil (n : Nat) : numeral n ≠ [] :=
  Nat.toDigits_ne_nil

theorem isDigit_of_mem_numeral {n : Nat} {c : Char} (h : c ∈ numeral n) : c.isDigit = true :=
  Nat.isDigit_of_mem_toDigits (by decide) (by decide) h

/-- The numeral of a number has that value. -/
@[simp] theorem natural?_numeral (n : Nat) : natural? (numeral n) = some n := by
  have digits : (numeral n).all Char.isDigit = true :=
    List.all_eq_true.2 fun _ => isDigit_of_mem_numeral
  have nonempty : (numeral n).isEmpty = false := by simp [numeral_ne_nil]
  rw [natural?, digits, nonempty, numeral]
  simp

/-- A text without one leading plus sign. -/
def dropPlus : Text → Text
  | '+' :: rest => rest
  | text => text

/-- Only a plus sign is dropped. -/
theorem dropPlus_eq_self {text : Text} (h : text.head? ≠ some '+') : dropPlus text = text := by
  unfold dropPlus
  split
  · exact absurd rfl h
  · rfl

@[simp] theorem dropPlus_numeral (n : Nat) : dropPlus (numeral n) = numeral n := by
  refine dropPlus_eq_self fun plus => ?_
  exact absurd (isDigit_of_mem_numeral (List.mem_of_head? plus)) (by decide)

/-- The value of a literal that stays below a limit. -/
def literalBelow? (limit : Nat) (text : Text) : Option Nat :=
  (natural? (dropPlus text)).filter (· < limit)

/-- The value of a literal of 32 bits. -/
def uint32? (text : Text) : Option UInt32 :=
  (literalBelow? UInt32.size text).map UInt32.ofNat

/-- The value of a literal of 64 bits. -/
def uint64? (text : Text) : Option UInt64 :=
  (literalBelow? UInt64.size text).map UInt64.ofNat

@[simp] theorem literalBelow?_numeral {limit n : Nat} (h : n < limit) :
    literalBelow? limit (numeral n) = some n := by
  simp [literalBelow?, h]

@[simp] theorem uint32?_numeral (n : UInt32) : uint32? (numeral n.toNat) = some n := by
  simp [uint32?, n.toNat_lt_size]

@[simp] theorem uint64?_numeral (n : UInt64) : uint64? (numeral n.toNat) = some n := by
  simp [uint64?, n.toNat_lt_size]

end Text
end SearchPhrase
