import SearchPhrase.Bounds
import SearchPhrase.Listing.Category
import SearchPhrase.Listing.Condition
import SearchPhrase.Text.Basic

/-!
# Filter records

A filter record is what a search is narrowed down by: descriptions of the listing, ranges for its
year, price and odometer reading, and the keywords that are left to look for.
-/

namespace SearchPhrase

/-- A filter record.  Everything but the query may be unset. -/
structure FilterRecord where
  /-- The make of a vehicle. -/
  make : Option String := none
  /-- The model of a vehicle, in lower case. -/
  model : Option String := none
  /-- The range of years. -/
  year : Bounds UInt32 := {}
  /-- The range of prices. -/
  price : Bounds UInt64 := {}
  /-- The range of odometer readings. -/
  odometer : Bounds UInt64 := {}
  /-- The place of the listing. -/
  location : Option String := none
  /-- The color of the listed thing. -/
  color : Option String := none
  /-- The acceptable conditions; any condition will do if there are none. -/
  condition : List Condition := []
  /-- The category of the listing. -/
  category : Option Category := none
  /-- The keywords. -/
  query : String := ""
deriving DecidableEq

namespace FilterRecord

/-- Whether anything besides the query is set. -/
def isStructured (record : FilterRecord) : Bool :=
  record.make.isSome || record.model.isSome || !record.year.isUnbounded ||
    !record.price.isUnbounded || !record.odometer.isUnbounded || record.location.isSome ||
    record.color.isSome || !record.condition.isEmpty || record.category.isSome

/-- The record with a preferred location, trimmed, if none is set and the preferred one is not
blank. -/
def preferLocation (record : FilterRecord) (location : String) : FilterRecord :=
  let trimmed := Text.trim location.toList
  if record.location.isNone && !trimmed.isEmpty then
    { record with location := some (String.ofList trimmed) }
  else record

end FilterRecord
end SearchPhrase
