import SearchPhrase.Unicode.Lowercase
import SearchPhrase.Text.Basic

/-!
# Condition of a listing

The four conditions a listing can be filtered by, with the label that is shown and exchanged for
each.
-/

namespace SearchPhrase

/-- The condition of a listing. -/
inductive Condition where
  /-- Never used. -/
  | new
  /-- Used with hardly a trace of it, or prized for its age. -/
  | likeNew
  /-- In working order. -/
  | good
  /-- Worn or in need of work. -/
  | fair
deriving DecidableEq, Repr

namespace Condition

/-- Every condition, in the order of the labels. -/
def all : List Condition :=
  [new, likeNew, good, fair]

/-- The label of a condition. -/
def label : Condition → String
  | new => "New"
  | likeNew => "Like New"
  | good => "Good"
  | fair => "Fair"

/-- The condition with exactly the given label. -/
def ofExactLabel? (label : String) : Option Condition :=
  all.find? fun condition => condition.label = label

/-- The condition with the given label, whose case and surrounding white space do not count. -/
def ofLabel? (label : Text) : Option Condition :=
  let wanted := Unicode.lowercase (Text.trim label)
  all.find? fun condition => Unicode.lowercase condition.label.toList = wanted

end Condition
end SearchPhrase
