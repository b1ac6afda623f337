import SearchPhrase.Json.Basic
import SearchPhrase.Record.Basic
import SearchPhrase.Text.Numeral

/-!
# Filter records as JSON

A record is written as an object with a field for each part that is set and for the query.  Reading
takes an unset optional field for one that is null or missing, passes over fields of other names,
and takes only whole numbers in range that are spelled without sign, point or exponent.  A record
may also be given as an array of all its fields in order.
-/

namespace SearchPhrase

namespace Json

/-- A field that is left out when it is unset. -/
def optional (name : String) (value : Option Json) : List (String × Json) :=
  (value.map fun value => (name, value)).toList

/-- The whole number below a limit that a value spells. -/
def natBelow? (limit : Nat) : Json → Option Nat
  | number literal => (Text.natural? literal).filter (· < limit)
  | _ => none

/-- The number of 32 bits that a value spells. -/
def uint32? (value : Json) : Option UInt32 :=
  (value.natBelow? UInt32.size).map UInt32.ofNat

/-- The number of 64 bits that a value spells. -/
def uint64? (value : Json) : Option UInt64 :=
  (value.natBelow? UInt64.size).map UInt64.ofNat

/-- Whether a field is present and null. -/
def isNullField (name : String) (fields : List (String × Json)) : Bool :=
  match lookup? name fields with
  | some null => true
  | _ => false

/-- The label that a value names: a string, or an object whose only field is null. -/
def label? : Json → Option String
  | string label => some label
  | object ((label, value) :: fields) =>
      if (fields.all fun field => field.1 == label) &&
          isNullField label ((label, value) :: fields) then
        some label
      else none
  | _ => none

/-- The condition that a value names. -/
def condition? (value : Json) : Option Condition :=
  value.label?.bind Condition.ofExactLabel?

/-- The conditions that a value lists. -/
def conditions? (value : Json) : Option (List Condition) :=
  value.items?.bind fun items => items.mapM condition?

/-- The category that a value names. -/
def category? (value : Json) : Option Category :=
  value.label?.bind Category.ofExactLabel?

/-- An optional part: unset for a value that is missing or null, and otherwise read as given. -/
def setting? {α : Type} (read : Json → Option α) : Option Json → Option (Option α)
  | none => some none
  | some null => some none
  | some value => (read value).map some

end Json

namespace FilterRecord

/-- The names of the fields of a record, in order. -/
def fieldNames : List String :=
  ["make", "model", "yearMin", "yearMax", "priceMin", "priceMax", "odometerMin", "odometerMax",
    "location", "color", "condition", "category", "query"]

/-- The conditions of a record as a value, if there are any. -/
def conditionsJson? (record : FilterRecord) : Option Json :=
  if record.condition.isEmpty then none
  else some (.array (record.condition.map fun condition => .string condition.label))

/-- The fields of a record that are set. -/
def jsonFields (record : FilterRecord) : List (String × Json) :=
  Json.optional "make" (record.make.map .string) ++
  Json.optional "model" (record.model.map .string) ++
  Json.optional "yearMin" (record.year.lower.map fun value => .ofNat value.toNat) ++
  Json.optional "yearMax" (record.year.upper.map fun value => .ofNat value.toNat) ++
  Json.optional "priceMin" (record.price.lower.map fun value => .ofNat value.toNat) ++
  Json.optional "priceMax" (record.price.upper.map fun value => .ofNat value.toNat) ++
  Json.optional "odometerMin" (record.odometer.lower.map fun value => .ofNat value.toNat) ++
  Json.optional "odometerMax" (record.odometer.upper.map fun value => .ofNat value.toNat) ++
  Json.optional "location" (record.location.map .string) ++
  Json.optional "color" (record.color.map .string) ++
  Json.optional "condition" record.conditionsJson? ++
  Json.optional "category" (record.category.map fun category => .string category.label) ++
  [("query", .string record.query)]

/-- A record as a value. -/
def toJson (record : FilterRecord) : Json :=
  .object record.jsonFields

/-- The record whose fields are given by name. -/
def ofFields? (field? : String → Option Json) : Option FilterRecord := do
  let make ← Json.setting? Json.string? (field? "make")
  let model ← Json.setting? Json.string? (field? "model")
  let yearMin ← Json.setting? Json.uint32? (field? "yearMin")
  let yearMax ← Json.setting? Json.uint32? (field? "yearMax")
  let priceMin ← Json.setting? Json.uint64? (field? "priceMin")
  let priceMax ← Json.setting? Json.uint64? (field? "priceMax")
  let odometerMin ← Json.setting? Json.uint64? (field? "odometerMin")
  let odometerMax ← Json.setting? Json.uint64? (field? "odometerMax")
  let location ← Json.setting? Json.string? (field? "location")
  let color ← Json.setting? Json.string? (field? "color")
  let condition ← (field? "condition").elim (some []) Json.conditions?
  let category ← Json.setting? Json.category? (field? "category")
  let query ← (field? "query").bind Json.string?
  some
    { make, model, location, color, condition, category, query
      year := ⟨yearMin, yearMax⟩
      price := ⟨priceMin, priceMax⟩
      odometer := ⟨odometerMin, odometerMax⟩ }

/-- The record that a value describes. -/
def ofJson? : Json → Option FilterRecord
  | .object fields => ofFields? fun name => Json.lookup? name fields
  | .array items =>
      if items.length = fieldNames.length then
        ofFields? fun name => Json.lookup? name (fieldNames.zip items)
      else none
  | _ => none

end FilterRecord
end SearchPhrase
