import SearchPhrase.Record.Basic
import SearchPhrase.Text.Numeral

/-!
# Summary of a filter record

A one-line account of what a record filters by, with a labelled part for everything that is set.
The category and the query are not mentioned.  Prices and distances have a comma before every group
of three digits counted from the right.
-/

namespace SearchPhrase

namespace Amount

/-- Digits with a comma wherever a multiple of three of them is still to come. -/
def groupDigits : Text → Text
  | [] => []
  | digit :: rest =>
      if rest ≠ [] ∧ rest.length % 3 = 0 then digit :: ',' :: groupDigits rest
      else digit :: groupDigits rest

/-- The numeral of an amount in groups of three digits. -/
def grouped (amount : UInt64) : Text :=
  groupDigits (Text.numeral amount.toNat)

end Amount

/-- How a range is displayed, given how its ends are: a single value, two values with a hyphen, or
one value with the direction in which the range is open. -/
def Bounds.describe? {α : Type} [DecidableEq α] (bounds : Bounds α) (display : α → Text) :
    Option Text :=
  match bounds.lower, bounds.upper with
  | some low, some high =>
      if low = high then some (display low)
      else some (display low ++ '-' :: display high)
  | some low, none => some ("from ".toList ++ display low)
  | none, some high => some ("up to ".toList ++ display high)
  | none, none => none

namespace FilterRecord

/-- The display of a price. -/
def displayPrice (price : UInt64) : Text :=
  '$' :: Amount.grouped price

/-- The display of a distance. -/
def displayDistance (distance : UInt64) : Text :=
  Amount.grouped distance ++ " km".toList

/-- The display of a year. -/
def displayYear (year : UInt32) : Text :=
  Text.numeral year.toNat

/-- The labels of a list of conditions with a separator between neighbours. -/
def conditionLabels (separator : Text) (conditions : List Condition) : Text :=
  List.intercalate separator (conditions.map fun condition => condition.label.toList)

/-- The labels of a record's conditions, if there are any. -/
def conditionText? (separator : Text) (record : FilterRecord) : Option Text :=
  if record.condition.isEmpty then none else some (conditionLabels separator record.condition)

/-- What is displayed for each label of a summary, in the order of the summary. -/
def displays (record : FilterRecord) : List (Text × Option Text) :=
  [("Make: ".toList, record.make.map String.toList),
    ("Model: ".toList, record.model.map String.toList),
    ("Year: ".toList, record.year.describe? displayYear),
    ("Price: ".toList, record.price.describe? displayPrice),
    ("Odometer: ".toList, record.odometer.describe? displayDistance),
    ("Location: ".toList, record.location.map String.toList),
    ("Color: ".toList, record.color.map String.toList),
    ("Condition: ".toList, record.conditionText? ", ".toList)]

/-- The labelled parts of a summary. -/
def summaryParts (record : FilterRecord) : List Text :=
  record.displays.filterMap fun entry => entry.2.map (entry.1 ++ ·)

/-- What stands between the parts of a summary. -/
def summarySeparator : Text := " · ".toList

/-- The summary of a record, if it has any part. -/
def summary? (record : FilterRecord) : Option String :=
  if record.summaryParts.isEmpty then none
  else some (String.ofList (List.intercalate summarySeparator record.summaryParts))

end FilterRecord
end SearchPhrase
