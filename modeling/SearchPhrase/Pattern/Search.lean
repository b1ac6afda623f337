import SearchPhrase.Pattern.Outcome
import SearchPhrase.Span
import SearchPhrase.Text.Utf8

/-!
# Searching a text

A search goes through a text from left to right.  Where a pattern can be taken, its preferred
outcome is a match and the search goes on after it; elsewhere a single character is passed over.
The result is a list of pieces that make up the text again, and finding and replacing are views of
that list.
-/

namespace SearchPhrase

/-- An occurrence of a pattern within a text. -/
structure Match where
  /-- The text before the occurrence, back to front. -/
  before : Text
  /-- The text of the occurrence. -/
  text : Text
  /-- The text after the occurrence. -/
  after : Text
  /-- The named parts of the occurrence. -/
  captures : List Capture
deriving DecidableEq

namespace Match

/-- The text recorded under a name. -/
def slot? (found : Match) (slot : Slot) : Option Text :=
  (found.captures.find? fun capture => capture.slot = slot).map Capture.text

/-- The stretch of the whole text that an occurrence takes up. -/
def span (found : Match) : Span :=
  let start := Text.byteLength found.before
  ⟨start, start + Text.byteLength found.text⟩

/-- The stretch of the whole text that a named part takes up. -/
def slotSpan? (found : Match) (slot : Slot) : Option Span :=
  (found.captures.find? fun capture => capture.slot = slot).map fun capture =>
    let start := Text.byteLength capture.start.before
    ⟨start, start + Text.byteLength capture.text⟩

end Match

/-- A piece of a searched text. -/
inductive Piece where
  /-- A character outside every occurrence. -/
  | plain (c : Char)
  /-- An occurrence. -/
  | found (occurrence : Match)
deriving DecidableEq

namespace Pattern

/-- The preferred occurrence of a pattern at a place, provided that it takes up any text. -/
def matchAt? (pattern : Pattern) (cursor : Cursor) : Option Match :=
  match pattern.outcomes ⟨cursor, []⟩ with
  | [] => none
  | outcome :: _ =>
      match cursor.textTo outcome.cursor with
      | [] => none
      | text => some ⟨cursor.before, text, outcome.cursor.after, outcome.captures⟩

/-- The pieces of the text after a place, of which some first characters may belong to an occurrence
that is already listed. -/
def piecesFrom (pattern : Pattern) (skip : Nat) (before : Text) : Text → List Piece
  | [] => []
  | c :: rest =>
      match skip with
      | skip + 1 => piecesFrom pattern skip (c :: before) rest
      | 0 =>
          match pattern.matchAt? ⟨before, c :: rest⟩ with
          | some found =>
              .found found :: piecesFrom pattern (found.text.length - 1) (c :: before) rest
          | none => .plain c :: piecesFrom pattern 0 (c :: before) rest

/-- The pieces of a text. -/
def pieces (pattern : Pattern) (text : Text) : List Piece :=
  piecesFrom pattern 0 [] text

/-- The occurrence that a piece holds. -/
def occurrence? : Piece → Option Match
  | .plain _ => none
  | .found occurrence => some occurrence

/-- The occurrences of a pattern, none of which overlap, from left to right. -/
def findAll (pattern : Pattern) (text : Text) : List Match :=
  (pattern.pieces text).filterMap occurrence?

/-- The leftmost occurrence of a pattern. -/
def find? (pattern : Pattern) (text : Text) : Option Match :=
  (pattern.findAll text).head?

/-- Whether a pattern occurs in a text. -/
def occursIn (pattern : Pattern) (text : Text) : Bool :=
  (pattern.find? text).isSome

/-- The text of a piece, with a substitute for its occurrence. -/
def pieceText (substitute : Match → Text) : Piece → Text
  | .plain c => [c]
  | .found occurrence => substitute occurrence

/-- A text with a substitute for each occurrence of a pattern. -/
def replace (pattern : Pattern) (substitute : Match → Text) (text : Text) : Text :=
  (pattern.pieces text).flatMap (pieceText substitute)

/-- The stretch of the leftmost occurrence of a phrase as whole words. -/
def wholeWordSpan? (phrase : String) (text : Text) : Option Span :=
  ((wholeWord phrase).find? text).map Match.span

end Pattern
end SearchPhrase
