import SearchPhrase.Pattern.Search
import SearchPhrase.Amount.Compact
import SearchPhrase.Unicode.Numeric

/-!
# Figures in a phrase

The patterns that the quantities of a phrase have in common (numbers, scale letters, amounts of
money, units of distance, and the words that introduce a limit), and the surroundings that tell one
kind of figure from another.
-/

namespace SearchPhrase
namespace Figure

open Pattern Unicode

/-- The words that mark a figure as a distance, the longer of two before the shorter. -/
def distanceWords : List String :=
  ["kms", "km", "kilometers", "kilometres", "mileage", "odometer"]

/-- A word that marks a figure as a distance. -/
def distanceUnit : Pattern :=
  oneOf distanceWords

/-- A number: digits with commas among or after them, and perhaps a point with further digits. -/
def number (slot : Slot) : Pattern :=
  capture slot
    (char .digit ++ run (.either .digit (.only ',')) ++ opt (only '.' ++ run1 .digit))

/-- A letter that counts a number in thousands or millions. -/
def scaleLetter : Pattern :=
  char (.either (.only 'k') (.only 'm'))

/-- A dollar sign and perhaps one white space after it, which may be missing altogether. -/
def currency : Pattern :=
  opt (only '$' ++ opt (char .space))

/-- An amount of money, of which only the number must be there. -/
def money (slot scaleSlot : Slot) : Pattern :=
  currency ++ number slot ++ opt (capture scaleSlot scaleLetter)

/-- The words that announce an upper limit. -/
def atMost : Pattern :=
  anyOf [literal "under", literal "below", literal "less" ++ blank ++ literal "than"]

/-- The words that announce a lower limit. -/
def atLeast : Pattern :=
  anyOf [literal "over", literal "above", literal "more" ++ blank ++ literal "than"]

/-- What stands between the two ends of a range, with the white space around it. -/
def rangeMark : Pattern :=
  gap ++ oneOf ["-", "to"] ++ gap

end Figure

namespace Match

open Unicode

/-- The amount recorded under a name, scaled by the letter recorded under another. -/
def amount? (found : Match) (slot scaleSlot : Slot) : Option UInt64 := do
  let number ← found.slot? slot
  Amount.read? number (found.slot? scaleSlot)

/-- The amount recorded under a name, counted in thousands. -/
def thousands? (found : Match) (slot : Slot) : Option UInt64 := do
  let number ← found.slot? slot
  Amount.read? number (some ['k'])

/-- Whether an occurrence comes right after a dollar sign, white space aside. -/
def followsCurrency (found : Match) : Bool :=
  (Text.trimStart found.before).head? == some '$'

/-- Whether an occurrence begins a token rather than continuing a word or a number. -/
def beginsToken (found : Match) : Bool :=
  match found.before with
  | [] => true
  | c :: _ => !(isAlphanumeric c || c == '.' || c == ',')

/-- Whether an occurrence comes right before a word that marks a distance, white space aside. -/
def precedesDistance (found : Match) : Bool :=
  let word := (Text.trimStart found.after).takeWhile isAlphabetic
  Figure.distanceWords.any fun unit => unit.toList == word

end Match
end SearchPhrase
