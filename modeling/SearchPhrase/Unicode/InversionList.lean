/-!
# Inversion lists

A set of code points written as the ascending list of the places where membership changes: the set
begins at the first entry, ends before the second, begins again at the third, and so on.  A large
set is kept in pages, each an inversion list for the code points before its end, so that a look-up
goes through the ends of the pages and then through one page only.
-/

namespace SearchPhrase
namespace Unicode

/-- A set of code points, as the ascending list of its changes of membership. -/
abbrev InversionList := List Nat

/-- Whether a code point belongs to the set that an inversion list describes. -/
def InversionList.contains : InversionList → Nat → Bool
  | start :: stop :: rest, code =>
      if code < start then false
      else if code < stop then true
      else InversionList.contains rest code
  | _, _ => false

/-- A part of a large set. -/
structure Page where
  /-- The first code point after the part. -/
  stop : Nat
  /-- The code points of the set that lie in the part. -/
  members : InversionList

/-- A large set of code points, in pages with ascending ends. -/
abbrev PagedSet := List Page

/-- Whether a code point belongs to a set that is kept in pages. -/
def PagedSet.contains : PagedSet → Nat → Bool
  | [], _ => false
  | page :: pages, code =>
      if code < page.stop then page.members.contains code
      else PagedSet.contains pages code

end Unicode
end SearchPhrase
