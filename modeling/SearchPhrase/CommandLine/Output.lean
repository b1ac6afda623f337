import SearchPhrase.Interpretation
import SearchPhrase.Json.Printer
import SearchPhrase.Record.Param

/-!
# Output of the command line

What the commands print: an interpretation as readable lines, as indented JSON or as a query string,
and a batch of interpretations as one line of compact JSON for every line that is not blank.  A
line of the input ends at a line feed, and a carriage return right before that is part of the
ending; what follows the last line feed is a line of its own unless it is empty.
-/

namespace SearchPhrase

namespace Text

/-- A text without one carriage return at its end. -/
def dropReturn (line : Text) : Text :=
  if line.getLast? = some '\r' then line.dropLast else line

/-- The lines of a text that has been cut at its line feeds. -/
def linesOfParts : List Text → List Text
  | [] => []
  | [last] => if last.isEmpty then [] else [last]
  | part :: parts => dropReturn part :: linesOfParts parts

/-- The lines of a text, without their endings. -/
def lines (text : Text) : List Text :=
  linesOfParts (List.splitOn '\n' text)

end Text

namespace CommandLine

/-- How an interpretation is printed. -/
inductive Format where
  /-- Readable lines. -/
  | text
  /-- Indented JSON. -/
  | json
  /-- The query string of the filters. -/
  | query
deriving DecidableEq, Repr

/-- The format of a given name. -/
def Format.ofName? (name : String) : Option Format :=
  if name = "text" then some .text
  else if name = "json" then some .json
  else if name = "query" then some .query
  else none

/-- A text as a line. -/
def line (text : Text) : Text :=
  text ++ ['\n']

/-- The pairs that are listed for a record: all but the query. -/
def listedParams (record : FilterRecord) : List (String × String) :=
  record.params.filter fun pair => pair.1 != "query"

/-- The line for one pair. -/
def paramLine (pair : String × String) : Text :=
  line ("  • ".toList ++ pair.1.toList ++ ": ".toList ++ pair.2.toList)

/-- The line that tells the summary. -/
def summaryLine : Option String → Text
  | some summary => line ("✓ Interpreted as: ".toList ++ summary.toList)
  | none => line "→ No filters detected.".toList

/-- An interpretation as readable lines. -/
def readable (interpretation : Interpretation) : Text :=
  line ("→ Searching for: ".toList ++ interpretation.filters.query.toList) ++
    (listedParams interpretation.filters).flatMap paramLine ++
    summaryLine interpretation.interpretedAs

/-- An interpretation in a given format. -/
def printed (interpretation : Interpretation) : Format → Text
  | .text => readable interpretation
  | .json => line interpretation.toJson.indented
  | .query => line interpretation.filters.queryText

/-- What is printed for a phrase, with a location to prefer. -/
def interpret (format : Format) (location : Option String) (phrase : String) : String :=
  String.ofList (printed ((Interpretation.ofPhrase phrase).preferLocation location) format)

/-- The row of a batch for one line of input. -/
def batchRow (input : Text) : Text :=
  line (Interpretation.ofPhrase (String.ofList input)).toJson.compact

/-- The lines of a batch that are interpreted. -/
def batchLines (input : Text) : List Text :=
  (Text.lines input).filter fun line => !Text.isBlank line

/-- What is printed for a batch of lines. -/
def batch (input : String) : String :=
  String.ofList ((batchLines input.toList).flatMap batchRow)

end CommandLine
end SearchPhrase
