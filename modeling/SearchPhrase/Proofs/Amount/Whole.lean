import SearchPhrase.Amount.Compact
import Mathlib.Algebra.Order.Field.Rat
import Mathlib.Data.List.TakeWhile
import Mathlib.Tactic.NormNum

/-!
# Amounts that are whole numbers

A whole number of few enough binary digits is kept as it is by every rounding, so that an amount
that is written in digits alone is read as the number that they spell, scaled by its letter.
-/

namespace SearchPhrase
namespace Amount

theorem roundHalfEven_intCast (n : Int) : roundHalfEven n = n := by
  simp [roundHalfEven]

theorem roundHalfAway_natCast (n : Nat) : roundHalfAway n = n := by
  have positive : ¬(n : Rat) < 0 := not_lt.2 (Nat.cast_nonneg n)
  have half : (1 / 2 : Rat).floor = 0 := by decide +kernel
  have shifted : ((1 / 2 : Rat) + ((n : Int) : Rat)).floor = n := by
    rw [Rat.floor_add_intCast, half, zero_add]
  rw [roundHalfAway, if_neg positive, add_comm]
  exact shifted

theorem pow2_ne_zero (exponent : Int) : pow2 exponent ≠ 0 :=
  zpow_ne_zero exponent (by decide)

/-- A multiple of its last kept place is kept as it is. -/
theorem toSignificant_eq_self
    {x : Rat}
    {n : Int}
    {exponent : Int}
    (last : lastPlace x = pow2 exponent)
    (aligned : x = n * pow2 exponent) :
    toSignificant x = x := by
  have whole : x / pow2 exponent = n := by
    rw [aligned, mul_div_cancel_right₀ _ (pow2_ne_zero exponent)]
  rw [toSignificant, last, whole, roundHalfEven_intCast, ← aligned]

/-- A whole number is a multiple of every power of two that is not above one. -/
theorem natCast_eq_mul_pow2
    (n : Nat)
    {exponent : Int}
    (nonpositive : exponent ≤ 0) :
    (n : Rat) = ((n * 2 ^ exponent.natAbs : Nat) : Int) * pow2 exponent := by
  have negated : exponent = -(exponent.natAbs : Int) := by omega
  have unit : (2 : Rat) ^ exponent.natAbs * pow2 exponent = 1 := by
    rw [pow2, negated, Int.natAbs_neg, Int.natAbs_natCast, zpow_neg, zpow_natCast]
    exact mul_inv_cancel₀ (pow_ne_zero _ (by decide))
  push_cast
  rw [mul_assoc, unit, mul_one]

theorem exponentEstimate_natCast (n : Nat) :
    exponentEstimate n = (n.log2 : Int) - significantBits := by
  have unit : Nat.log2 1 = 0 := by decide
  simp [exponentEstimate, unit]

/-- A whole number of no more binary digits than are kept is kept as it is. -/
theorem toSignificant_natCast
    {n : Nat}
    (small : n ≤ 2 ^ significantBits) :
    toSignificant n = n := by
  rcases Nat.lt_or_eq_of_le small with below | rfl
  · have bits : n.log2 < significantBits := by
      by_cases zero : n = 0
      · subst zero
        decide
      · exact (Nat.log2_lt zero).2 below
    have estimate := exponentEstimate_natCast n
    by_cases fits : ((n : Rat) / pow2 (exponentEstimate n)).floor.natAbs.log2 < significantBits
    · have last : lastPlace n = pow2 (exponentEstimate n) := if_pos fits
      exact toSignificant_eq_self last (natCast_eq_mul_pow2 n (by omega))
    · have last : lastPlace n = pow2 (exponentEstimate n + 1) := if_neg fits
      exact toSignificant_eq_self last (natCast_eq_mul_pow2 n (by omega))
  · -- The greatest of them has one binary digit more, and is even.
    have estimate : exponentEstimate (2 ^ significantBits : Nat) = 0 := by
      rw [exponentEstimate_natCast, Nat.log2_two_pow, sub_self]
    have fits : ¬((2 ^ significantBits : Nat) / pow2 0 : Rat).floor.natAbs.log2 <
        significantBits := by
      have floor : ((2 ^ significantBits : Nat) : Rat).floor = (2 ^ significantBits : Nat) :=
        Rat.floor_intCast (2 ^ significantBits : Nat)
      rw [pow2, zpow_zero, div_one, floor, Int.natAbs_natCast, Nat.log2_two_pow]
      exact lt_irrefl significantBits
    have last : lastPlace (2 ^ significantBits : Nat) = pow2 1 := by
      unfold lastPlace
      rw [estimate]
      exact if_neg fits
    refine toSignificant_eq_self (n := 2 ^ 52) last ?_
    norm_num [pow2, significantBits]

theorem scale_pos (suffix : Option Text) : 0 < scale suffix := by
  unfold scale
  split <;> decide

/-- A literal without a fraction has the scaled value of its digits, as long as that is small. -/
theorem scaled?_whole
    {n factor : Nat}
    (positive : 0 < factor)
    (small : n * factor ≤ 2 ^ significantBits) :
    scaled? ⟨false, n, 0⟩ factor = some ((n * factor : Nat) : Int) := by
  by_cases zero : n = 0
  · simp [scaled?, zero]
  · have bounded : n ≤ 2 ^ significantBits :=
      (Nat.le_mul_of_pos_right n positive).trans small
    have short : (Text.numeral n).length ≤ 40 := by
      apply (Nat.length_toDigits_le_iff (by decide) (by decide)).2
      exact bounded.trans_lt (by decide)
    have value : Decimal.value ⟨false, n, 0⟩ = n := by simp [Decimal.value]
    have scaled : (n : Rat) * (factor : Rat) = ((n * factor : Nat) : Rat) := by push_cast; rfl
    have magnitude : Decimal.magnitude ⟨false, n, 0⟩ = (Text.numeral n).length := by
      simp [Decimal.magnitude]
    have notLarge : ¬40 < Decimal.magnitude ⟨false, n, 0⟩ := by omega
    have notTiny : ¬Decimal.magnitude ⟨false, n, 0⟩ < -40 := by omega
    rw [scaled?, if_neg zero, if_neg notLarge, if_neg notTiny, value,
      toSignificant_natCast bounded, scaled, toSignificant_natCast small, roundHalfAway_natCast]

theorem clamp?_natCast
    {n : Nat}
    (small : n ≤ 2 ^ significantBits) :
    clamp? n = some (UInt64.ofNat n) := by
  have below : n < UInt64.size := small.trans_lt (by decide)
  have notNegative : ¬(n : Int) < 0 := by omega
  have notLarge : ¬(UInt64.size : Int) < n := by omega
  have least : min n (UInt64.size - 1) = n := by omega
  rw [clamp?, if_neg notNegative, if_neg notLarge, Int.toNat_natCast, least]

section Digits

variable {digits : Text}

theorem takeSign_digits
    (nonempty : digits ≠ [])
    (all : ∀ c ∈ digits, c.isDigit = true) :
    takeSign digits = (false, digits) := by
  cases digits with
  | nil => exact absurd rfl nonempty
  | cons c rest =>
      have digit := all c (by simp)
      unfold takeSign
      split
      · next minus => cases minus; simp at digit
      · next plus => cases plus; simp at digit
      · rfl

/-- The literal of digits alone is the number that they spell. -/
theorem parse?_digits
    (nonempty : digits ≠ [])
    (all : ∀ c ∈ digits, c.isDigit = true) :
    Decimal.parse? digits = some ⟨false, Nat.ofDigitChars 10 digits 0, 0⟩ := by
  have taken : digits.takeWhile Char.isDigit = digits := List.takeWhile_eq_self_iff.2 all
  have dropped : digits.dropWhile Char.isDigit = [] := List.dropWhile_eq_nil_iff.2 all
  simp [Decimal.parse?, takeSign_digits nonempty all, taken, dropped, takeFraction, exponent?,
    nonempty]

/-- Digits are read as the number that they spell, in the unit of the letter that follows them. -/
theorem read?_digits
    {suffix : Option Text}
    (nonempty : digits ≠ [])
    (all : ∀ c ∈ digits, c.isDigit = true)
    (small : Nat.ofDigitChars 10 digits 0 * scale suffix ≤ 2 ^ significantBits) :
    read? digits suffix =
      some (UInt64.ofNat (Nat.ofDigitChars 10 digits 0 * scale suffix)) := by
  have kept : digits.filter (· ≠ ',') = digits := by
    apply List.filter_eq_self.2
    intro c member
    have digit := all c member
    apply decide_eq_true
    rintro rfl
    simp at digit
  rw [read?, kept, parse?_digits nonempty all, Option.bind_eq_bind, Option.bind_some,
    scaled?_whole (scale_pos suffix) small, Option.bind_eq_bind, Option.bind_some,
    clamp?_natCast small]

end Digits

end Amount
end SearchPhrase
