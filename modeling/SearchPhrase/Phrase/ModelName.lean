import SearchPhrase.Text.Utf8
import SearchPhrase.Pattern.Search

/-!
# Model names in a phrase

The words right after a make name its model, up to a word that begins another part of the phrase, a
number of four digits, or an amount of money.
-/

namespace SearchPhrase
namespace ModelName

/-- The greatest number of words in a model name. -/
def maxWords : Nat := 2

/-- The words that end a model name. -/
def stopWords : List String :=
  ["after", "before", "from", "in", "near", "under", "below", "with", "around", "between", "to"]

/-- Whether a character is ASCII punctuation or an ASCII symbol. -/
def isPunctuation (c : Char) : Bool :=
  '!' ≤ c && c ≤ '~' && !c.isAlphanum

/-- A word without the punctuation at its end. -/
def stripPunctuation (word : Text) : Text :=
  (word.reverse.dropWhile isPunctuation).reverse

/-- Whether a word is made up of exactly four ASCII digits. -/
def isFourDigits (word : Text) : Bool :=
  word.length = 4 && word.all Char.isDigit

/-- Whether a word ends a model name. -/
def endsModel (word : Text) : Bool :=
  stopWords.any (fun stop => stop.toList == word) || isFourDigits word

/-- The words of a model name that may still take so many words. -/
def takeWords : Nat → List Text → List Text
  | _, [] => []
  | 0, _ => []
  | room + 1, raw :: rest =>
      let word := stripPunctuation raw
      if raw.head? = some '$' then []
      else if word.isEmpty then takeWords (room + 1) rest
      else if endsModel word then []
      else word :: takeWords room rest

/-- The model name at the start of a text. -/
def atStart (text : Text) : Option String :=
  match takeWords maxWords (Text.words text) with
  | [] => none
  | words => some (String.ofList (List.intercalate [' '] words))

/-- The model name that comes after the mention of a make in a phrase in lower case. -/
def read (text : Text) (make : Option Mention) : Option String := do
  let mention ← make
  atStart (Text.dropBytes mention.span.stop text)

end ModelName
end SearchPhrase
