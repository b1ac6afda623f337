import SearchPhrase.Amount.Decimal
import SearchPhrase.Amount.Significant

/-!
# Compact amounts

Amounts as people write them in a search: a number that may have commas among its digits, and a
letter that counts it in thousands or millions.  The number and its scaled value are both rounded to
the significant binary digits that amounts keep, then to a whole number.
-/

namespace SearchPhrase
namespace Amount

/-- What a scale letter counts in. -/
def scale : Option Text → Nat
  | some ['k'] | some ['K'] => 1000
  | some ['m'] | some ['M'] => 1000000
  | _ => 1

/-- The scaled value of a literal as a whole number.  A literal of more than forty digits before the
point is out of range whatever its digits are, and so close to zero that forty places do not show it
it is zero, so that neither needs to be computed. -/
def scaled? (literal : Decimal) (factor : Nat) : Option Int :=
  if literal.digits = 0 then some 0
  else if 40 < literal.magnitude then none
  else if literal.magnitude < -40 then some 0
  else some (roundHalfAway (toSignificant (toSignificant literal.value * factor)))

/-- A whole number as an amount.  A negative number and one above 2^64 are refused, and 2^64 itself
becomes the greatest amount. -/
def clamp? (n : Int) : Option UInt64 :=
  if n < 0 then none
  else if (UInt64.size : Int) < n then none
  else some (UInt64.ofNat (min n.toNat (UInt64.size - 1)))

/-- The amount that a number with an optional scale letter names; commas in the number are passed
over. -/
def read? (number : Text) (suffix : Option Text) : Option UInt64 := do
  let literal ← Decimal.parse? (number.filter (· ≠ ','))
  let whole ← scaled? literal (scale suffix)
  clamp? whole

end Amount
end SearchPhrase
