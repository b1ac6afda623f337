import SearchPhrase.Text.Numeral

/-!
# Decimal literals

Numbers in positional decimal notation: an optional sign, digits with an optional point among,
before or after them, and an optional power of ten.  Every literal has at least one digit outside
its exponent.
-/

namespace SearchPhrase
namespace Amount

/-- A decimal literal: its sign, its digits without the point, and the power of ten that places
them. -/
structure Decimal where
  /-- Whether the literal begins with a minus sign. -/
  negative : Bool
  /-- The digits as one whole number. -/
  digits : Nat
  /-- The power of ten by which the whole number is scaled. -/
  exponent : Int
deriving DecidableEq

/-- Whether a text begins with a minus sign, and the text without a sign. -/
def takeSign : Text → Bool × Text
  | '-' :: rest => (true, rest)
  | '+' :: rest => (false, rest)
  | text => (false, text)

/-- The digits after a point, and the text after them. -/
def takeFraction : Text → Text × Text
  | '.' :: rest => (rest.takeWhile Char.isDigit, rest.dropWhile Char.isDigit)
  | text => ([], text)

/-- The power of ten that ends a literal. -/
def exponent? : Text → Option Int
  | [] => some 0
  | mark :: rest =>
      if mark = 'e' ∨ mark = 'E' then
        (Text.natural? (takeSign rest).2).map fun power =>
          if (takeSign rest).1 then -(power : Int) else power
      else none

namespace Decimal

/-- The literal that a text spells. -/
def parse? (text : Text) : Option Decimal :=
  let (negative, unsigned) := takeSign text
  let whole := unsigned.takeWhile Char.isDigit
  let (fraction, tail) := takeFraction (unsigned.dropWhile Char.isDigit)
  if (whole ++ fraction).isEmpty then none
  else (exponent? tail).map fun power =>
    ⟨negative, Nat.ofDigitChars 10 (whole ++ fraction) 0, power - fraction.length⟩

/-- The power of ten just above a literal's magnitude. -/
def magnitude (literal : Decimal) : Int :=
  literal.exponent + (Text.numeral literal.digits).length

/-- The exact value of a literal. -/
def value (literal : Decimal) : Rat :=
  (if literal.negative then -(literal.digits : Rat) else literal.digits) * 10 ^ literal.exponent

end Decimal
end Amount
end SearchPhrase
