/-!
# Rounding to significant bits

Amounts are kept to 53 significant binary digits.  A quotient is rounded to the nearest multiple of
the unit in its last kept place, and a quotient half-way between two multiples goes to the even one.
The exponent is not bounded: an amount that is too large is refused later on, and one that is too
small is zero once it is rounded to a whole number.
-/

namespace SearchPhrase
namespace Amount

/-- The nearest whole number, with a half going to the even neighbour. -/
def roundHalfEven (x : Rat) : Int :=
  let below := x.floor
  if x - below < 1 / 2 then below
  else if 1 / 2 < x - below then below + 1
  else below + below % 2

/-- The nearest whole number, with a half going away from zero. -/
def roundHalfAway (x : Rat) : Int :=
  if x < 0 then -(-x + 1 / 2).floor else (x + 1 / 2).floor

/-- The number of significant binary digits that are kept. -/
def significantBits : Nat := 53

/-- An exponent that is at most one too small for the last kept place. -/
def exponentEstimate (x : Rat) : Int :=
  (x.num.natAbs.log2 : Int) - x.den.log2 - significantBits

/-- A power of two. -/
def pow2 (exponent : Int) : Rat :=
  (2 : Rat) ^ exponent

/-- The unit in the last kept place of a quotient. -/
def lastPlace (x : Rat) : Rat :=
  let estimate := exponentEstimate x
  if (x / pow2 estimate).floor.natAbs.log2 < significantBits then pow2 estimate
  else pow2 (estimate + 1)

/-- A quotient rounded to the significant binary digits that are kept. -/
def toSignificant (x : Rat) : Rat :=
  roundHalfEven (x / lastPlace x) * lastPlace x

end Amount
end SearchPhrase
