import SearchPhrase.Pattern.Search

/-!
# Places in a phrase

The places that phrases mention.  Of several places in one phrase the one that comes first in the
list counts.  A mention after a preposition is preferred over a bare one of the same place.
-/

namespace SearchPhrase
namespace Locality

open Pattern

/-- The places, in the order in which they are looked for. -/
def places : List String :=
  ["palmerston north", "new plymouth", "bay of plenty", "hawke's bay", "hawkes bay",
    "north shore", "west coast", "lower hutt", "upper hutt", "mount maunganui", "mount eden",
    "mount albert", "auckland", "wellington", "christchurch", "hamilton", "tauranga", "dunedin",
    "napier", "hastings", "nelson", "rotorua", "whangarei", "invercargill", "queenstown",
    "gisborne", "timaru", "blenheim", "whanganui", "taupo", "porirua", "manukau", "papakura",
    "waikato", "canterbury", "otago", "northland", "taranaki", "southland", "marlborough",
    "manawatu", "ponsonby", "takapuna", "albany", "henderson", "botany", "newmarket", "remuera",
    "parnell", "riccarton", "petone", "karori", "devonport", "papamoa"]

/-- The words that introduce a place. -/
def prepositions : List String :=
  ["in", "near", "at", "around", "from"]

/-- A place after a word that introduces it. -/
def introduced (place : String) : Pattern :=
  bounded (oneOf prepositions ++ blank ++ capture .place (literal place))

/-- The stretch of a place that a preposition introduces. -/
def introducedSpan? (place : String) (text : Text) : Option Span := do
  let found ← (introduced place).find? text
  found.slotSpan? .place

/-- The displayed form of a place. -/
def displayName (place : String) : String :=
  String.ofList (Text.titleCase place.toList)

/-- The mention of one place. -/
def mentionOf? (text : Text) (place : String) : Option Mention :=
  ((introducedSpan? place text).or (wholeWordSpan? place text)).map fun span =>
    ⟨displayName place, span⟩

/-- The place that a phrase in lower case mentions. -/
def read (text : Text) : Option Mention :=
  places.findSome? (mentionOf? text)

end Locality
end SearchPhrase
