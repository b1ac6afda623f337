import SearchPhrase.Amount.Decimal
import SearchPhrase.Amount.Significant

/-!
# The range of JSON numbers

A number is read as a significand below 2^64 and a power of ten.  Digits are taken into the
significand as long as it stays below that limit.  A digit before the point that is not taken raises
the power by one, and a digit after the point that is not taken is passed over.  The value is the
product of the two, each of which is rounded to the significant binary digits of a double first, and
the number is out of range when the rounded product is.
-/

namespace SearchPhrase
namespace Json

/-- A number without its sign, as a significand and a power of ten. -/
structure Magnitude where
  /-- The significand. -/
  significand : Nat
  /-- The power of ten that scales it. -/
  exponent : Int
deriving DecidableEq

/-- A significand with as many of some digits as keep it below 2^64, and how many are left out. -/
def takeDigits (significand : Nat) : Text → Nat × Nat
  | [] => (significand, 0)
  | digit :: rest =>
      let next := 10 * significand + (digit.toNat - '0'.toNat)
      if next < UInt64.size then takeDigits next rest else (significand, rest.length + 1)

theorem takeDigits_lt {significand : Nat} (h : significand < UInt64.size) (digits : Text) :
    (takeDigits significand digits).1 < UInt64.size := by
  induction digits generalizing significand with
  | nil => exact h
  | cons digit rest ih =>
      simp only [takeDigits]
      split
      · exact ih ‹_›
      · exact h

/-- The magnitude of a number. -/
def magnitude? (literal : Text) : Option Magnitude :=
  let unsigned := (Amount.takeSign literal).2
  let (fraction, tail) := Amount.takeFraction (unsigned.dropWhile Char.isDigit)
  let (whole, raised) := takeDigits 0 (unsigned.takeWhile Char.isDigit)
  let (significand, passed) := takeDigits whole fraction
  (Amount.exponent? tail).map fun power =>
    ⟨significand, power + raised - (fraction.length - passed : Nat)⟩

/-- The greatest power of ten that is a double. -/
def greatestPower : Int := 308

/-- Whether the value of a number is a finite double. -/
def Magnitude.isFinite (magnitude : Magnitude) : Bool :=
  if magnitude.significand = 0 ∨ magnitude.exponent < 0 then true
  else if greatestPower < magnitude.exponent then false
  else
    decide (Amount.toSignificant (Amount.toSignificant magnitude.significand *
      Amount.toSignificant (10 ^ magnitude.exponent)) < Amount.pow2 1024)

/-- Whether a number is in range. -/
def isInRange (literal : Text) : Bool :=
  (magnitude? literal).any Magnitude.isFinite

end Json
end SearchPhrase
