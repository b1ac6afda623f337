import SearchPhrase.Pattern.Basic

/-!
# Outcomes of a pattern

The ways in which a pattern can be taken at a place in a text, in order of preference.  The first
outcome is the one that a search reports, so that an earlier alternative wins over a later one and a
longer run over a shorter one.
-/

namespace SearchPhrase

/-- A place in a text: what lies before it, back to front, and what lies after it. -/
structure Cursor where
  /-- The text before the place, back to front. -/
  before : Text
  /-- The text after the place. -/
  after : Text
deriving DecidableEq

namespace Cursor

/-- The place at the start of a text. -/
def ofText (text : Text) : Cursor :=
  ⟨[], text⟩

/-- The whole text around a place. -/
def whole (cursor : Cursor) : Text :=
  cursor.before.reverse ++ cursor.after

/-- Whether a text begins with a word character. -/
def startsWithWord : Text → Bool
  | [] => false
  | c :: _ => Unicode.isWord c

/-- Whether exactly one neighbour of a place is a word character. -/
def atBoundary (cursor : Cursor) : Bool :=
  startsWithWord cursor.before != startsWithWord cursor.after

/-- The place after one character of a class. -/
def step? (cls : CharClass) : Cursor → Option Cursor
  | ⟨_, []⟩ => none
  | ⟨before, c :: rest⟩ => if cls.accepts c then some ⟨c :: before, rest⟩ else none

/-- The places that a run of a class can reach, the farthest first, ahead of places already known to
be nearer. -/
def runEndsBefore (cls : CharClass) (nearer : List Cursor) (before : Text) : Text → List Cursor
  | [] => ⟨before, []⟩ :: nearer
  | c :: rest =>
      if cls.accepts c then
        runEndsBefore cls (⟨before, c :: rest⟩ :: nearer) (c :: before) rest
      else ⟨before, c :: rest⟩ :: nearer

/-- The places that a run of a class can reach, the farthest first. -/
def runEnds (cls : CharClass) (cursor : Cursor) : List Cursor :=
  runEndsBefore cls [] cursor.before cursor.after

/-- The text between a place and a later one. -/
def textTo (start stop : Cursor) : Text :=
  start.after.take (start.after.length - stop.after.length)

end Cursor

/-- A named part of a match. -/
structure Capture where
  /-- The name. -/
  slot : Slot
  /-- Where the part begins. -/
  start : Cursor
  /-- Where the part ends. -/
  stop : Cursor
deriving DecidableEq

namespace Capture

/-- The text of a named part. -/
def text (capture : Capture) : Text :=
  capture.start.textTo capture.stop

end Capture

/-- A way in which a pattern was taken: the place it led to, and the parts it named. -/
structure Outcome where
  /-- The place after the text taken. -/
  cursor : Cursor
  /-- The named parts, the latest first. -/
  captures : List Capture
deriving DecidableEq

namespace Outcome

/-- The same outcome at another place. -/
def moveTo (outcome : Outcome) (cursor : Cursor) : Outcome :=
  { outcome with cursor := cursor }

/-- The outcome with the text since an earlier place recorded under a name. -/
def record (slot : Slot) (start : Cursor) (outcome : Outcome) : Outcome :=
  { outcome with captures := ⟨slot, start, outcome.cursor⟩ :: outcome.captures }

end Outcome

namespace Pattern

/-- The ways to go on from an outcome by a pattern, in order of preference. -/
def outcomes : Pattern → Outcome → List Outcome
  | never, _ => []
  | empty, outcome => [outcome]
  | char cls, outcome => ((outcome.cursor.step? cls).map outcome.moveTo).toList
  | seq first second, outcome => (first.outcomes outcome).flatMap second.outcomes
  | alt preferred fallback, outcome => preferred.outcomes outcome ++ fallback.outcomes outcome
  | run cls, outcome => (outcome.cursor.runEnds cls).map outcome.moveTo
  | boundary, outcome => if outcome.cursor.atBoundary then [outcome] else []
  | capture slot body, outcome => (body.outcomes outcome).map (Outcome.record slot outcome.cursor)

end Pattern
end SearchPhrase
