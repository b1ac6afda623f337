import Mathlib.Data.List.Induction
import SearchPhrase.Proofs.Record.Normalized

/-!
# Pairs and the latest values among them

A list of pairs is read as what it says in the end: each parameter takes the latest value that a
pair gives it, and the record that results is given its verdict.  A value that does not suit its
name is an error even where a later one would have replaced it, and the earliest such error counts.
-/

namespace SearchPhrase

namespace Param

/-- The labels in a list of conditions, blank ones aside. -/
def labels (value : Text) : List Text :=
  (List.splitOn ',' value).filter fun label => !Text.isBlank label

end Param

namespace FilterRecord

/-- The parameter that a pair sets and the value that it gives, unless the value is blank or the
name unknown. -/
def setting? (pair : String × String) : Option (Param × Text) :=
  let value := Text.trim pair.2.toList
  if value.isEmpty then none else (Param.ofKey? pair.1).map fun param => (param, value)

/-- The values that pairs give a parameter, one after another. -/
def values (pairs : List (String × String)) (param : Param) : List Text :=
  pairs.filterMap fun pair =>
    (setting? pair).bind fun setting => if setting.1 = param then some setting.2 else none

section Concat

variable {pairs : List (String × String)} {pair : String × String}

end Concat

end FilterRecord
end SearchPhrase
