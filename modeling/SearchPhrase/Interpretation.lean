import SearchPhrase.Phrase.Keywords
import SearchPhrase.Phrase.Mileage
import SearchPhrase.Phrase.ModelName
import SearchPhrase.Record.Json
import SearchPhrase.Record.Summary

/-!
# Interpretation of a phrase

Everything but the keywords is read from the phrase in lower case.  Years and distances are read
before prices, which leave alone what those have claimed.  The keywords come from the phrase as it
was written, and the category stays unset.  As JSON, an interpretation is an object with its
filters, its summary if it has one, and the phrase.
-/

namespace SearchPhrase

/-- What a search phrase has been found to mean. -/
structure Interpretation where
  /-- The filters. -/
  filters : FilterRecord
  /-- The summary of the filters that were found in the phrase. -/
  interpretedAs : Option String
  /-- The phrase as it was written. -/
  phrase : String
deriving DecidableEq

namespace Interpretation

/-- The stretches of a phrase in lower case that years and distances have claimed. -/
def claimedSpans (text : Text) : List Span :=
  (Years.read text).spans ++ (Mileage.read text).spans

/-- The prices of a phrase in lower case outside of what years and distances have claimed. -/
def openPrices (text : Text) : Reading UInt64 :=
  Budget.read (claimedSpans text) text

/-- The filters of a phrase, given in lower case too. -/
def filtersOf (phrase text : Text) : FilterRecord :=
  let make := Maker.read text
  { make := make.map Mention.name
    model := ModelName.read text make
    year := (Years.read text).bounds
    price := (openPrices text).bounds
    odometer := (Mileage.read text).bounds
    location := (Locality.read text).map Mention.name
    color := Traits.color text
    condition := (Traits.condition text).toList
    category := none
    query := String.ofList (Keywords.read phrase) }

/-- The interpretation of a phrase. -/
def ofPhrase (phrase : String) : Interpretation :=
  let filters := filtersOf phrase.toList (Unicode.lowercase phrase.toList)
  { filters, interpretedAs := filters.summary?, phrase }

/-- The interpretation with a preferred location for when the phrase names none.  The summary goes
on to tell only what the phrase said. -/
def preferLocation (interpretation : Interpretation) (location : Option String) :
    Interpretation :=
  match location with
  | some location =>
      { interpretation with filters := interpretation.filters.preferLocation location }
  | none => interpretation

/-- The fields of an interpretation. -/
def jsonFields (interpretation : Interpretation) : List (String × Json) :=
  ("filters", interpretation.filters.toJson) ::
    (Json.optional "interpretedAs" (interpretation.interpretedAs.map .string) ++
      [("originalQuery", .string interpretation.phrase)])

/-- An interpretation as a value. -/
def toJson (interpretation : Interpretation) : Json :=
  .object interpretation.jsonFields

end Interpretation
end SearchPhrase
