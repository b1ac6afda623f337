import SearchPhrase.Phrase.Figure
import SearchPhrase.Reading

/-!
# Distances in a phrase

A figure is an odometer bound when it stands before "or below", when it carries a unit of distance,
or when it is a large number of thousands in a phrase about vehicles or mileage.
-/

namespace SearchPhrase
namespace Mileage

open Pattern Figure

/-- The words that make a phrase one about vehicles, which may also stand in the plural. -/
def vehicleWords : List String :=
  ["car", "vehicle", "truck", "suv", "van", "ute", "sedan", "hatchback", "wagon", "coupe",
    "motorbike", "motorcycle"]

/-- A word that makes a phrase one about vehicles or mileage. -/
def contextWord : Pattern :=
  bounded (alt (oneOf vehicleWords ++ opt (only 's')) distanceUnit)

/-- Whether a phrase is about vehicles or mileage. -/
def hasContext (text : Text) : Bool :=
  contextWord.occursIn text

/-- The least distance that is read as such without a unit. -/
def bareFloor : UInt64 := 50000

/-- A number of thousands that is not to be exceeded, such as "100k or below". -/
def orBelow : Pattern :=
  bounded
    (number .left ++ only 'k' ++ blank ++ opt (literal "or" ++ blank) ++
      oneOf ["below", "under", "less"] ++ opt (blank ++ distanceUnit))

/-- A limit with a distance that carries a unit. -/
def limitWithUnit (limit : Pattern) : Pattern :=
  bounded
    (limit ++ blank ++ number .left ++ gap ++ opt (capture .leftScale (only 'k')) ++ gap ++
      distanceUnit)

/-- A limit with a number of thousands. -/
def limitInThousands (limit : Pattern) : Pattern :=
  bounded (limit ++ blank ++ number .left ++ only 'k')

/-- The number of thousands before "or below" with its stretch, unless it is an amount of money. -/
def orBelow? (found : Match) : Option (UInt64 × Span) := do
  let value ← found.thousands? .left
  if found.followsCurrency then none else some (value, found.span)

/-- The first limit with a unit, with its stretch. -/
def withUnit? (limit : Pattern) (text : Text) : Option (UInt64 × Span) := do
  let found ← (limitWithUnit limit).find? text
  let value ← found.amount? .left .leftScale
  some (value, found.span)

/-- The first limit in thousands with its stretch, if it is large enough for a distance. -/
def inThousands? (limit : Pattern) (text : Text) : Option (UInt64 × Span) := do
  let found ← (limitInThousands limit).find? text
  let value ← found.thousands? .left
  if value < bareFloor then none else some (value, found.span)

/-- Claim an upper bound that may not have been found. -/
def claimUpper? (bound : Option (UInt64 × Span)) (reading : Reading UInt64) : Reading UInt64 :=
  match bound with
  | none => reading
  | some (value, span) => reading.claimUpper value span

/-- Claim a lower bound that may not have been found. -/
def claimLower? (bound : Option (UInt64 × Span)) (reading : Reading UInt64) : Reading UInt64 :=
  match bound with
  | none => reading
  | some (value, span) => reading.claimLower value span

/-- Read the figure before "or below". -/
def readOrBelow (text : Text) (reading : Reading UInt64) : Reading UInt64 :=
  claimUpper? ((orBelow.findAll text).findSome? orBelow?) reading

/-- Read the limits that carry a unit. -/
def readWithUnit (text : Text) (reading : Reading UInt64) : Reading UInt64 :=
  claimLower? (withUnit? atLeast text) (claimUpper? (withUnit? atMost text) reading)

/-- Read large limits without a unit, if nothing has been found in a phrase about vehicles. -/
def readBare (text : Text) (reading : Reading UInt64) : Reading UInt64 :=
  if reading.isNothing && hasContext text then
    claimLower? (inThousands? atLeast text) (claimUpper? (inThousands? atMost text) reading)
  else reading

/-- The distances of a phrase in lower case. -/
def read (text : Text) : Reading UInt64 :=
  readBare text (readWithUnit text (readOrBelow text .nothing))

end Mileage
end SearchPhrase
