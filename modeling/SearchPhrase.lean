import SearchPhrase.Unicode.Ascii
import SearchPhrase.Text.Numeral
import SearchPhrase.Text.Percent.Lemmas
import SearchPhrase.Pattern.Lemmas
import SearchPhrase.Amount.Compact
import SearchPhrase.Reading
import SearchPhrase.Phrase.Keywords
import SearchPhrase.Phrase.Mileage
import SearchPhrase.Phrase.ModelName
import SearchPhrase.Record.Param
import SearchPhrase.Record.Fingerprint
import SearchPhrase.Interpretation.Lemmas
import SearchPhrase.Session
import SearchPhrase.Service.Answer
import SearchPhrase.Main
import SearchPhrase.Proofs.Text.Trimmed
import SearchPhrase.Proofs.Unicode.Lowercase
import SearchPhrase.Proofs.Record.Normalized
import SearchPhrase.Proofs.Record.WellFormed
import SearchPhrase.Proofs.Record.Latest
import SearchPhrase.Proofs.Interpretation.WellFormed
import SearchPhrase.Proofs.Interpretation.RoundTrip
import SearchPhrase.Proofs.Pattern.Takes
import SearchPhrase.Proofs.Pattern.Records
import SearchPhrase.Proofs.Pattern.Occurrences
import SearchPhrase.Proofs.Session.WellFormed
import SearchPhrase.Proofs.Text.Stretch
import SearchPhrase.Proofs.Phrase.Figures
import SearchPhrase.Proofs.Interpretation.Overlap
import SearchPhrase.Proofs.Interpretation.Unitless
import SearchPhrase.Proofs.Amount.Whole
import SearchPhrase.Proofs.Phrase.Amounts
import SearchPhrase.Proofs.Unicode.LowercaseParts
import SearchPhrase.Proofs.Phrase.LoneLimit
import SearchPhrase.Proofs.Interpretation.Routing
import SearchPhrase.Proofs.Phrase.YearTokens
import SearchPhrase.Proofs.Phrase.Grounds
import SearchPhrase.Proofs.Interpretation.YearPairs
import SearchPhrase.Proofs.Phrase.LonePair
import SearchPhrase.Proofs.Interpretation.PairRouting
import SearchPhrase.Proofs.Phrase.Units
import SearchPhrase.Proofs.Interpretation.Leftovers
import SearchPhrase.Proofs.Record.Identity
import SearchPhrase.Proofs.Record.Canonical
import SearchPhrase.Proofs.Text.Thinning
import SearchPhrase.Proofs.Pattern.Replaced
import SearchPhrase.Proofs.Pattern.Folded
import SearchPhrase.Proofs.Phrase.Dispensable
import SearchPhrase.Proofs.Phrase.Removals
import SearchPhrase.Proofs.Phrase.KeptWords
import SearchPhrase.Proofs.Pattern.Pieces
import SearchPhrase.Proofs.Text.Standing
import SearchPhrase.Proofs.Phrase.ClearedPhrases
import SearchPhrase.Proofs.Service.Surfaces
import SearchPhrase.Proofs.Unicode.LowercaseWords
import SearchPhrase.Proofs.Text.Lowered
import SearchPhrase.Proofs.Pattern.Alphabet
import SearchPhrase.Proofs.Phrase.Expressions
import SearchPhrase.Proofs.Phrase.Refusals
import SearchPhrase.Proofs.Interpretation.UnreadFigures
import SearchPhrase.Proofs.Pattern.Longest
import SearchPhrase.Proofs.Pattern.Passes
import SearchPhrase.Proofs.Phrase.FigurePasses
import SearchPhrase.Proofs.Phrase.PriceCores
import SearchPhrase.Proofs.Phrase.HeadWords
import SearchPhrase.Proofs.Phrase.WholeLimits
import SearchPhrase.Proofs.Phrase.PlainRanges
import SearchPhrase.Proofs.Interpretation.StrippedPrices
import SearchPhrase.Proofs.Pattern.Losses
import SearchPhrase.Proofs.Phrase.Settling
import SearchPhrase.Proofs.Text.Lines
import SearchPhrase.Proofs.Json.Printable
import SearchPhrase.Proofs.CommandLine.Batch
import SearchPhrase.Proofs.Pattern.Recased
import SearchPhrase.Proofs.Interpretation.LetterCase
import SearchPhrase.Proofs.Pattern.Neighbors
import SearchPhrase.Proofs.Phrase.Openings
import SearchPhrase.Proofs.Phrase.Names
import SearchPhrase.Proofs.Interpretation.ModelWords
import SearchPhrase.Proofs.Service.DefaultLocation
import SearchPhrase.Proofs.Pattern.WholeWords
import SearchPhrase.Proofs.Phrase.Gazetteer
import SearchPhrase.Proofs.Phrase.ModelScan
import SearchPhrase.Proofs.Record.Structured
import SearchPhrase.Proofs.Record.SingleLine
import SearchPhrase.Proofs.CommandLine.Listing
import SearchPhrase.Proofs.Amount.Grouped
import SearchPhrase.Proofs.Record.Displays
import SearchPhrase.Proofs.Record.Summary
import SearchPhrase.Proofs.Interpretation.Summary
import SearchPhrase.Proofs.Record.Fields
