import SearchPhrase.Phrase.Figure
import SearchPhrase.Reading
import SearchPhrase.Text.Numeral

/-!
# Years in a phrase

Four rules read years, each filling in what the rules before it have left open: a year that
something is to be newer than, a year that it is to be older than, a pair of years in ascending
order, and, when nothing else has been found, a year that stands alone and does not read as an
amount.
-/

namespace SearchPhrase
namespace Years

open Pattern

/-- A year of the twentieth or twenty-first century. -/
def year (slot : Slot) : Pattern :=
  capture slot (oneOf ["19", "20"] ++ char .digit ++ char .digit)

/-- A year that begins a range. -/
def afterYear : Pattern :=
  bounded (oneOf ["after", "since", "from"] ++ blank ++ year .left)

/-- A year that ends a range. -/
def beforeYear : Pattern :=
  bounded (oneOf ["before", "until"] ++ blank ++ year .left)

/-- Two years that make a range. -/
def yearPair : Pattern :=
  bounded (year .left ++ Figure.rangeMark ++ year .right)

/-- A year by itself. -/
def loneYear : Pattern :=
  bounded (year .left)

/-- The words after which a number of four digits is an amount. -/
def amountLeads : List String :=
  ["under", "below", "than", "over", "above", "between", "and"]

/-- The year recorded under a name, if its digits are ASCII. -/
def recordedYear? (found : Match) (slot : Slot) : Option UInt32 := do
  let digits ← found.slot? slot
  Text.uint32? digits

/-- The last word before an occurrence. -/
def previousWord (found : Match) : Text :=
  ((Text.trimStart found.before).takeWhile fun c => !Unicode.isWhiteSpace c).reverse

/-- Whether a number reads as a year by itself: it is no amount of money, no distance, and not what
a limit is compared with. -/
def standsAlone (found : Match) : Bool :=
  !found.followsCurrency && !found.precedesDistance &&
    !amountLeads.any fun lead => lead.toList == previousWord found

/-- A year by itself with its stretch, if it reads as one. -/
def loneYear? (found : Match) : Option (UInt32 × Span) := do
  let value ← recordedYear? found .left
  if standsAlone found then some (value, found.span) else none

/-- Two years in ascending order with their stretch. -/
def ascendingPair? (found : Match) : Option (UInt32 × UInt32 × Span) := do
  let first ← recordedYear? found .left
  let second ← recordedYear? found .right
  if first ≤ second then some (first, second, found.span) else none

/-- Read the year after which something is wanted. -/
def readAfter (text : Text) (reading : Reading UInt32) : Reading UInt32 :=
  match afterYear.find? text with
  | none => reading
  | some found =>
      match recordedYear? found .left with
      | none => reading
      | some value => reading.claimLower value found.span

/-- Read the year before which something is wanted. -/
def readBefore (text : Text) (reading : Reading UInt32) : Reading UInt32 :=
  match beforeYear.find? text with
  | none => reading
  | some found =>
      match recordedYear? found .left with
      | none => reading
      | some value => reading.claimUpper value found.span

/-- Read the first ascending pair of years into the ends that are still open. -/
def readPair (text : Text) (reading : Reading UInt32) : Reading UInt32 :=
  match (yearPair.findAll text).findSome? ascendingPair? with
  | none => reading
  | some (first, second, span) => reading.claimRange first second span

/-- Read the first year that stands alone, if no other year has been found. -/
def readLone (text : Text) (reading : Reading UInt32) : Reading UInt32 :=
  if reading.isNothing then
    match (loneYear.findAll text).findSome? loneYear? with
    | none => reading
    | some (value, span) => reading.claimRange value value span
  else reading

/-- The years of a phrase in lower case. -/
def read (text : Text) : Reading UInt32 :=
  readLone text (readPair text (readBefore text (readAfter text .nothing)))

end Years
end SearchPhrase
