import SearchPhrase.Record.Summary
import SearchPhrase.Text.Percent

/-!
# Filter records as parameters

A record travels as a list of named values, or as the query string that spells this list out.
Writing gives one pair for each part that is set, in a fixed order and without the category.
Reading trims values, passes over blank ones and unknown names, lets a later value replace an
earlier one, and checks the whole: a model needs a make, and no range may be reversed.
-/

namespace SearchPhrase

/-- The quantities that a record gives ranges for. -/
inductive Quantity where
  /-- The year. -/
  | year
  /-- The price. -/
  | price
  /-- The odometer reading. -/
  | odometer
deriving DecidableEq, Repr

namespace Quantity

/-- The name of a quantity. -/
def name : Quantity → String
  | year => "year"
  | price => "price"
  | odometer => "odometer"

end Quantity

/-- Why parameters do not make a record. -/
inductive ParamError where
  /-- A value does not suit its name. -/
  | invalid (key value : String)
  /-- The lower end of a range lies above the upper end. -/
  | reversed (quantity : Quantity)
deriving DecidableEq, Repr

namespace ParamError

/-- The text that tells an error. -/
def message : ParamError → String
  | invalid key value => "Invalid value for '" ++ key ++ "': " ++ value
  | reversed quantity => "Inconsistent range: " ++ quantity.name ++ " minimum exceeds maximum"

end ParamError

/-- The parameters that a record is made up of. -/
inductive Param where
  /-- The make. -/
  | make
  /-- The model. -/
  | model
  /-- The lower end of the years. -/
  | yearMin
  /-- The upper end of the years. -/
  | yearMax
  /-- The lower end of the prices. -/
  | priceMin
  /-- The upper end of the prices. -/
  | priceMax
  /-- The lower end of the odometer readings. -/
  | odometerMin
  /-- The upper end of the odometer readings. -/
  | odometerMax
  /-- The place. -/
  | location
  /-- The color. -/
  | color
  /-- The conditions. -/
  | condition
  /-- The keywords. -/
  | query
deriving DecidableEq, Repr

namespace Param

/-- Every parameter, in the order in which they are written. -/
def all : List Param :=
  [make, model, yearMin, yearMax, priceMin, priceMax, odometerMin, odometerMax, location, color,
    condition, query]

/-- The name under which a parameter is written. -/
def key : Param → String
  | make => "make"
  | model => "model"
  | yearMin => "yearMin"
  | yearMax => "yearMax"
  | priceMin => "priceMin"
  | priceMax => "priceMax"
  | odometerMin => "odometerMin"
  | odometerMax => "odometerMax"
  | location => "location"
  | color => "color"
  | condition => "condition"
  | query => "query"

/-- The parameter that a name stands for; the keywords have a short name besides their own. -/
def ofKey? (name : String) : Option Param :=
  if name = "q" then some query else all.find? fun param => param.key = name

/-- The value of a parameter in a record, if it is set. -/
def value? (record : FilterRecord) : Param → Option Text
  | make => record.make.map String.toList
  | model => record.model.map String.toList
  | yearMin => record.year.lower.map fun value => Text.numeral value.toNat
  | yearMax => record.year.upper.map fun value => Text.numeral value.toNat
  | priceMin => record.price.lower.map fun value => Text.numeral value.toNat
  | priceMax => record.price.upper.map fun value => Text.numeral value.toNat
  | odometerMin => record.odometer.lower.map fun value => Text.numeral value.toNat
  | odometerMax => record.odometer.upper.map fun value => Text.numeral value.toNat
  | location => record.location.map String.toList
  | color => record.color.map String.toList
  | condition => record.conditionText? [',']
  | query => some record.query.toList

/-- The error of a value that does not suit a parameter. -/
def refuse (param : Param) (value : Text) : ParamError :=
  .invalid param.key (String.ofList value)

/-- A number that a reader found, or the error of the value it was given. -/
def require {α : Type} (param : Param) (value : Text) : Option α → Except ParamError α
  | some number => .ok number
  | none => .error (param.refuse value)

/-- The condition that one label names. -/
def readLabel (label : Text) : Except ParamError Condition :=
  require condition label (Condition.ofLabel? label)

/-- The conditions that a list of labels with commas names; blank labels are passed over. -/
def readLabels (value : Text) : Except ParamError (List Condition) :=
  ((List.splitOn ',' value).filter fun label => !Text.isBlank label).mapM readLabel

/-- The record with a parameter set to a trimmed value that is not blank. -/
def assign (record : FilterRecord) (param : Param) (value : Text) :
    Except ParamError FilterRecord :=
  match param with
  | make => .ok { record with make := some (String.ofList value) }
  | model => .ok { record with model := some (String.ofList (Unicode.lowercase value)) }
  | yearMin => do
      let year ← param.require value (Text.uint32? value)
      .ok { record with year := { record.year with lower := some year } }
  | yearMax => do
      let year ← param.require value (Text.uint32? value)
      .ok { record with year := { record.year with upper := some year } }
  | priceMin => do
      let price ← param.require value (Text.uint64? value)
      .ok { record with price := { record.price with lower := some price } }
  | priceMax => do
      let price ← param.require value (Text.uint64? value)
      .ok { record with price := { record.price with upper := some price } }
  | odometerMin => do
      let distance ← param.require value (Text.uint64? value)
      .ok { record with odometer := { record.odometer with lower := some distance } }
  | odometerMax => do
      let distance ← param.require value (Text.uint64? value)
      .ok { record with odometer := { record.odometer with upper := some distance } }
  | location => .ok { record with location := some (String.ofList value) }
  | color => .ok { record with color := some (String.ofList value) }
  | condition => do
      let conditions ← readLabels value
      .ok { record with condition := conditions }
  | query => .ok { record with query := String.ofList value }

end Param

namespace FilterRecord

/-- The query of a record that is to match everything. -/
def matchAllQuery : String := "*"

/-- The pairs of names and values that a record is written as. -/
def params (record : FilterRecord) : List (String × String) :=
  Param.all.filterMap fun param =>
    (param.value? record).map fun value => (param.key, String.ofList value)

/-- The record with one more pair taken in. -/
def takeParam (record : FilterRecord) (pair : String × String) :
    Except ParamError FilterRecord :=
  let value := Text.trim pair.2.toList
  if value.isEmpty then .ok record
  else
    match Param.ofKey? pair.1 with
    | none => .ok record
    | some param => param.assign record value

/-- The error that keeps a record from being consistent: a model without a make, or else the first
reversed range. -/
def inconsistency? (record : FilterRecord) : Option ParamError :=
  match record.make, record.model with
  | none, some model => some (.invalid Param.model.key model)
  | _, _ =>
      if record.year.isReversed then some (.reversed .year)
      else if record.price.isReversed then some (.reversed .price)
      else if record.odometer.isReversed then some (.reversed .odometer)
      else none

/-- The record with a query that matches everything if it has none of its own. -/
def completeQuery (record : FilterRecord) : FilterRecord :=
  if record.query.isEmpty then { record with query := matchAllQuery } else record

/-- A record that has been taken in completely, if it is consistent. -/
def finish (record : FilterRecord) : Except ParamError FilterRecord :=
  match record.inconsistency? with
  | some error => .error error
  | none => .ok record.completeQuery

/-- The record that pairs of names and values make up. -/
def ofParams (pairs : List (String × String)) : Except ParamError FilterRecord := do
  let record ← pairs.foldlM takeParam {}
  record.finish

/-- One pair as part of a query string. -/
def encodePair (pair : String × String) : Text :=
  pair.1.toList ++ '=' :: Percent.encode pair.2.toList

/-- The query string that spells a record out. -/
def queryText (record : FilterRecord) : Text :=
  List.intercalate ['&'] (record.params.map encodePair)

/-- The query string of a record. -/
def queryString (record : FilterRecord) : String :=
  String.ofList record.queryText

/-- The name or value that a part of a query string stands for. -/
def decodePart (part : Text) : Except ParamError String :=
  match Percent.decode? part with
  | some text => .ok (String.ofList text)
  | none => .error (.invalid "query string" (String.ofList part))

/-- The pair that a part of a query string stands for; without an equals sign the value is empty. -/
def decodePair (part : Text) : Except ParamError (String × String) := do
  let (name, value) := Text.cutAt '=' part
  let key ← decodePart name
  let value ← decodePart (value.getD [])
  .ok (key, value)

/-- The parts of a query string that stand for pairs.  Question marks at its start are not part of
it. -/
def queryParts (raw : Text) : List Text :=
  (List.splitOn '&' (raw.dropWhile (· == '?'))).filter fun part => !part.isEmpty

/-- The record that a query string spells out. -/
def ofQueryString (raw : String) : Except ParamError FilterRecord := do
  let pairs ← (queryParts raw.toList).mapM decodePair
  ofParams pairs

end FilterRecord
end SearchPhrase
