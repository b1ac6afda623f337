import SearchPhrase.Text.Basic
import SearchPhrase.Unicode.Word

/-!
# Patterns

The patterns by which phrases are read.  A pattern is built from single characters, sequence,
ordered choice, greedy runs of one character class, word boundaries and named captures.  Only a
class may be repeated, which is all that phrases need and keeps every run's ends in one list.
-/

namespace SearchPhrase

/-- A set of characters of which a pattern takes one. -/
inductive CharClass where
  /-- Exactly the given character. -/
  | only (c : Char)
  /-- The given ASCII character in either case. -/
  | folded (c : Char)
  /-- Any decimal digit of some script, as far as it may belong to a word. -/
  | digit
  /-- Any white space. -/
  | space
  /-- A character of one class or the other. -/
  | either (left right : CharClass)
deriving DecidableEq

namespace CharClass

open Unicode

/-- The ASCII character that a character folds to, or the character itself.  Beyond ASCII only the
Kelvin sign and the long s fold to ASCII letters. -/
def foldCase (c : Char) : Char :=
  if c = Char.ofNat 0x212A then 'k'
  else if c = Char.ofNat 0x17F then 's'
  else c.toLower

/-- Whether a character belongs to a class. -/
def accepts : CharClass → Char → Bool
  | only c, d => c == d
  | folded c, d => foldCase c == foldCase d
  | digit, d => isWordDigit d
  | space, d => isWhiteSpace d
  | either left right, d => left.accepts d || right.accepts d

/-- The class that no longer tells case apart. -/
def ignoreCase : CharClass → CharClass
  | only c => folded c
  | either left right => either left.ignoreCase right.ignoreCase
  | other => other

end CharClass

/-- The parts of a match that a pattern may name. -/
inductive Slot where
  /-- The number of a single amount or of the first of two. -/
  | left
  /-- The scale letter of that number. -/
  | leftScale
  /-- The number of the second of two amounts. -/
  | right
  /-- The scale letter of that number. -/
  | rightScale
  /-- A unit of distance. -/
  | unit
  /-- The name of a place. -/
  | place
deriving DecidableEq

/-- A pattern over texts. -/
inductive Pattern where
  /-- No text at all. -/
  | never
  /-- The empty text. -/
  | empty
  /-- One character of a class. -/
  | char (cls : CharClass)
  /-- One pattern after another. -/
  | seq (first second : Pattern)
  /-- The first pattern, or else the second. -/
  | alt (preferred fallback : Pattern)
  /-- As many characters of a class as possible, perhaps none. -/
  | run (cls : CharClass)
  /-- The empty text at the edge of a word. -/
  | boundary
  /-- A pattern whose text is recorded under a name. -/
  | capture (slot : Slot) (body : Pattern)
deriving DecidableEq

namespace Pattern

instance : Append Pattern := ⟨seq⟩

/-- A character exactly as given. -/
def only (c : Char) : Pattern :=
  char (.only c)

/-- A phrase exactly as given. -/
def literal (phrase : String) : Pattern :=
  phrase.toList.foldr (fun c rest => seq (only c) rest) empty

/-- The first of several patterns that fits. -/
def anyOf : List Pattern → Pattern
  | [] => never
  | [last] => last
  | pattern :: patterns => alt pattern (anyOf patterns)

/-- The first of several phrases that fits. -/
def oneOf (phrases : List String) : Pattern :=
  anyOf (phrases.map literal)

/-- A pattern that may be left out, though it is taken where it fits. -/
def opt (pattern : Pattern) : Pattern :=
  alt pattern empty

/-- As many characters of a class as possible, and at least one. -/
def run1 (cls : CharClass) : Pattern :=
  char cls ++ run cls

/-- White space that may be missing. -/
def gap : Pattern :=
  run .space

/-- White space that must be there. -/
def blank : Pattern :=
  run1 .space

/-- A pattern whose text begins and ends at the edge of a word. -/
def bounded (body : Pattern) : Pattern :=
  boundary ++ body ++ boundary

/-- A phrase that stands on its own as one or more whole words. -/
def wholeWord (phrase : String) : Pattern :=
  bounded (literal phrase)

/-- The same pattern without regard to case. -/
def ignoreCase : Pattern → Pattern
  | never => never
  | empty => empty
  | char cls => char cls.ignoreCase
  | seq first second => seq first.ignoreCase second.ignoreCase
  | alt preferred fallback => alt preferred.ignoreCase fallback.ignoreCase
  | run cls => run cls.ignoreCase
  | boundary => boundary
  | capture slot body => capture slot body.ignoreCase

/-- Put a phrase before the first one that is no longer than it. -/
def insertLongestFirst (phrase : String) : List String → List String
  | [] => [phrase]
  | other :: others =>
      if other.length ≤ phrase.length then phrase :: other :: others
      else other :: insertLongestFirst phrase others

/-- Phrases from the longest to the shortest, those of one length in the order given. -/
def longestFirst (phrases : List String) : List String :=
  phrases.foldr insertLongestFirst []

/-- Any of several phrases as whole words, in either case; of two that overlap the longer is tried
first, so that it is found whole. -/
def anyPhrase (phrases : List String) : Pattern :=
  (bounded (oneOf (longestFirst phrases))).ignoreCase

end Pattern
end SearchPhrase
