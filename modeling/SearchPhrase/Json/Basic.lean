import SearchPhrase.Text.Numeral

/-!
# JSON values

Values of the JSON data format.  Numbers are kept as they are spelled, since it depends on the
reader which spellings it takes for numbers of its own, and objects keep the order of their fields.
-/

namespace SearchPhrase

/-- A JSON value. -/
inductive Json where
  /-- The null value. -/
  | null
  /-- A truth value. -/
  | bool (value : Bool)
  /-- A number, as it is spelled. -/
  | number (literal : Text)
  /-- A string. -/
  | string (value : String)
  /-- An array. -/
  | array (items : List Json)
  /-- An object. -/
  | object (fields : List (String × Json))

namespace Json

/-- The number with the numeral of a natural number. -/
def ofNat (n : Nat) : Json :=
  number (Text.numeral n)

/-- The value of the last field with the given name among several. -/
def lookup? (name : String) : List (String × Json) → Option Json
  | [] => none
  | (key, value) :: rest =>
      (lookup? name rest).or (if key = name then some value else none)

/-- The value of a field of an object. -/
def field? (name : String) : Json → Option Json
  | object fields => lookup? name fields
  | _ => none

/-- The text of a string value. -/
def string? : Json → Option String
  | string value => some value
  | _ => none

/-- The items of an array value. -/
def items? : Json → Option (List Json)
  | array items => some items
  | _ => none

end Json
end SearchPhrase
