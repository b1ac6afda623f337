import SearchPhrase.Phrase.Budget
import SearchPhrase.Phrase.Locality
import SearchPhrase.Phrase.Maker
import SearchPhrase.Phrase.Traits
import SearchPhrase.Phrase.Years

/-!
# Keywords of a phrase

What is left to search for once prices, places, conditions, makes and filler words have been taken
out of a phrase.  The words keep their case and order.  A phrase of which nothing would be left is
kept as it is, and a blank one becomes the query that matches everything.
-/

namespace SearchPhrase
namespace Keywords

open Pattern Figure

/-- The query that matches everything. -/
def matchAll : Text := ['*']

/-- Words that only make conversation. -/
def fillerWords : List String :=
  ["looking for", "find", "show", "search", "want", "need", "near", "in", "at", "around", "from",
    "me", "a", "an", "the"]

/-- An amount as it stands in the keywords. -/
def keywordMoney (slot : Slot) : Pattern :=
  currency ++ number slot ++ opt scaleLetter

/-- A limit with an amount, which may carry a unit of distance. -/
def limitExpression : Pattern :=
  bounded
    (alt atMost atLeast ++ blank ++ keywordMoney .left ++ opt (gap ++ distanceUnit))

/-- An amount between two others. -/
def betweenExpression : Pattern :=
  bounded
    (literal "between" ++ blank ++ keywordMoney .left ++ blank ++ literal "and" ++ blank ++
      keywordMoney .right)

/-- A range that begins with a dollar sign. -/
def currencyRange : Pattern :=
  only '$' ++ number .left ++ opt scaleLetter ++ rangeMark ++ keywordMoney .right ++ boundary

/-- A range that begins with a scaled number. -/
def scaledRange : Pattern :=
  bounded (number .left ++ scaleLetter ++ rangeMark ++ keywordMoney .right)

/-- The expressions that are prices by their form alone, in either case. -/
def priceExpressions : List Pattern :=
  [limitExpression, betweenExpression, currencyRange, scaledRange].map Pattern.ignoreCase

/-- Two plain numbers that make a range, and perhaps the unit that makes it a distance. -/
def plainRange : Pattern :=
  (bounded (number .left ++ rangeMark ++ number .right) ++
    opt (capture .unit (gap ++ distanceUnit ++ boundary))).ignoreCase

/-- Whether a number looks like a year: four digits that begin with 19 or 20. -/
def looksLikeYear (number : Text) : Bool :=
  match number with
  | ['1', '9', c, d] | ['2', '0', c, d] => Unicode.isWordDigit c && Unicode.isWordDigit d
  | _ => false

/-- Whether a plain number is one end of a price range. -/
def isPriceEnd (number : Text) : Bool :=
  !looksLikeYear number && (Amount.read? number none).any (Budget.bareRangeFloor < ·)

/-- Whether two plain numbers make a price range: they carry no unit, begin a token, and both are
large enough and unlike a year. -/
def isPriceRange (found : Match) : Bool :=
  (found.slot? .unit).isNone && found.beginsToken &&
    (found.slot? .left).any isPriceEnd && (found.slot? .right).any isPriceEnd

/-- What a plain range leaves behind. -/
def rangeResidue (found : Match) : Text :=
  if isPriceRange found then [' '] else found.text

/-- The groups of phrases that are taken out, one group after another. -/
def phraseGroups : List Pattern :=
  [anyPhrase Locality.places,
    anyPhrase (Traits.conditionOrder.flatMap Traits.conditionTriggers),
    anyPhrase Maker.vehicleOnlyMakes,
    anyPhrase fillerWords]

/-- A text with a blank for each occurrence of a pattern. -/
def blankOut (text : Text) (pattern : Pattern) : Text :=
  pattern.replace (fun _ => [' ']) text

/-- A phrase with blanks for its figures. -/
def withoutFigures (phrase : Text) : Text :=
  plainRange.replace rangeResidue (priceExpressions.foldl blankOut phrase)

/-- A phrase with blanks for everything that is taken out. -/
def strip (phrase : Text) : Text :=
  phraseGroups.foldl blankOut (withoutFigures phrase)

/-- The keywords of a phrase. -/
def read (phrase : Text) : Text :=
  let kept := Text.collapse (strip phrase)
  if !kept.isEmpty then kept
  else if !Text.isBlank phrase then phrase
  else matchAll

end Keywords
end SearchPhrase
