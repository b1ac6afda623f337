import SearchPhrase.Phrase.Figure
import SearchPhrase.Reading

/-!
# Prices in a phrase

Prices are read after years and distances and never from a stretch that those have claimed.  Limits
are read first; without any, an amount between two others; and without that, a bare range whose ends
are both large enough to be prices.
-/

namespace SearchPhrase
namespace Budget

open Pattern Figure

/-- A word-bounded amount of money. -/
def amount (slot scaleSlot : Slot) : Pattern :=
  money slot scaleSlot ++ boundary

/-- A limit with an amount. -/
def limited (limit : Pattern) : Pattern :=
  boundary ++ limit ++ blank ++ amount .left .leftScale

/-- An amount between two others. -/
def between : Pattern :=
  boundary ++ literal "between" ++ blank ++ amount .left .leftScale ++ blank ++ literal "and" ++
    blank ++ amount .right .rightScale

/-- Two amounts that make a range by themselves. -/
def bareRange : Pattern :=
  amount .left .leftScale ++ rangeMark ++ amount .right .rightScale

/-- What both ends of a bare range must exceed to count as prices. -/
def bareRangeFloor : UInt64 := 1000

/-- Both amounts of an occurrence. -/
def bothAmounts? (found : Match) : Option (UInt64 × UInt64) := do
  let first ← found.amount? .left .leftScale
  let second ← found.amount? .right .rightScale
  some (first, second)

/-- The amount of an occurrence with its stretch, unless that stretch is claimed. -/
def unclaimed? (claimed : List Span) (found : Match) : Option (UInt64 × Span) :=
  if found.span.meetsAny claimed then none
  else (found.amount? .left .leftScale).map fun value => (value, found.span)

/-- The first unclaimed limit with its stretch. -/
def limit? (limit : Pattern) (claimed : List Span) (text : Text) : Option (UInt64 × Span) :=
  ((limited limit).findAll text).findSome? (unclaimed? claimed)

/-- Both ends of a bare range with their stretch, if it reads as a price: it begins a token, is
unclaimed, is no distance, and has both ends above the floor. -/
def bareRange? (claimed : List Span) (found : Match) : Option (UInt64 × UInt64 × Span) := do
  let (first, second) ← bothAmounts? found
  if found.beginsToken && !found.span.meetsAny claimed && !found.precedesDistance &&
      bareRangeFloor < first && bareRangeFloor < second then
    some (first, second, found.span)
  else none

/-- Read the greatest price. -/
def readAtMost (claimed : List Span) (text : Text) (reading : Reading UInt64) : Reading UInt64 :=
  match limit? atMost claimed text with
  | none => reading
  | some (value, span) => reading.claimUpper value span

/-- Read the least price. -/
def readAtLeast (claimed : List Span) (text : Text) (reading : Reading UInt64) : Reading UInt64 :=
  match limit? atLeast claimed text with
  | none => reading
  | some (value, span) => reading.claimLower value span

/-- Read a range between two amounts, which counts only in ascending order. -/
def readBetween (found : Match) (reading : Reading UInt64) : Reading UInt64 :=
  match bothAmounts? found with
  | none => reading
  | some (first, second) =>
      if first ≤ second then reading.claimRange first second found.span else reading

/-- Read a bare range, whose ends may come in either order. -/
def readBareRange (claimed : List Span) (text : Text) (reading : Reading UInt64) :
    Reading UInt64 :=
  match (bareRange.findAll text).findSome? (bareRange? claimed) with
  | none => reading
  | some (first, second, span) => reading.claimRange (min first second) (max first second) span

/-- Read a range, if no limit has been found.  The first unclaimed "between" decides even when
nothing can be read from it. -/
def readRange (claimed : List Span) (text : Text) (reading : Reading UInt64) : Reading UInt64 :=
  if reading.isNothing then
    match (between.findAll text).find? fun found => !found.span.meetsAny claimed with
    | some found => readBetween found reading
    | none => readBareRange claimed text reading
  else reading

/-- The prices of a phrase in lower case, of which some stretches are claimed already. -/
def read (claimed : List Span) (text : Text) : Reading UInt64 :=
  readRange claimed text (readAtLeast claimed text (readAtMost claimed text .nothing))

end Budget
end SearchPhrase
