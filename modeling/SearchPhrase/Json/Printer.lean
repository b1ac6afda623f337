import SearchPhrase.Json.Basic

/-!
# Printing JSON

Two layouts of a value: a compact one without any white space, and an indented one with every item
of an array and every field of an object on a line of its own.
-/

namespace SearchPhrase
namespace Json

/-- The escape of a control character that has no short one. -/
def escapeControl (c : Char) : Text :=
  ['\\', 'u', '0', '0', Nat.digitChar (c.toNat / 16), Nat.digitChar (c.toNat % 16)]

/-- How a character is written within a string. -/
def escapeChar (c : Char) : Text :=
  if c = '"' then ['\\', '"']
  else if c = '\\' then ['\\', '\\']
  else if c.toNat = 8 then ['\\', 'b']
  else if c.toNat = 9 then ['\\', 't']
  else if c.toNat = 10 then ['\\', 'n']
  else if c.toNat = 12 then ['\\', 'f']
  else if c.toNat = 13 then ['\\', 'r']
  else if c.toNat < 32 then escapeControl c
  else [c]

/-- A text as a string with its quotation marks. -/
def quote (text : Text) : Text :=
  '"' :: (text.flatMap escapeChar ++ ['"'])

/-- The text of a truth value. -/
def boolText (value : Bool) : Text :=
  if value then "true".toList else "false".toList

mutual

/-- A value without white space. -/
def compact : Json → Text
  | null => "null".toList
  | bool value => boolText value
  | number literal => literal
  | string value => quote value.toList
  | array items => '[' :: (compactItems items ++ [']'])
  | object fields => '{' :: (compactFields fields ++ ['}'])

/-- The items of an array, with commas between them. -/
def compactItems : List Json → Text
  | [] => []
  | [item] => compact item
  | item :: items => compact item ++ ',' :: compactItems items

/-- The fields of an object, with commas between them. -/
def compactFields : List (String × Json) → Text
  | [] => []
  | [(name, value)] => quote name.toList ++ ':' :: compact value
  | (name, value) :: fields =>
      quote name.toList ++ ':' :: (compact value ++ ',' :: compactFields fields)

end

/-- The start of a new line at a depth of nesting. -/
def newline (depth : Nat) : Text :=
  '\n' :: List.replicate (2 * depth) ' '

mutual

/-- A value with line breaks and indentation, at a depth of nesting. -/
def indentedAt (depth : Nat) : Json → Text
  | null => "null".toList
  | bool value => boolText value
  | number literal => literal
  | string value => quote value.toList
  | array [] => ['[', ']']
  | array (item :: items) =>
      '[' :: (indentedItems (depth + 1) (item :: items) ++ newline depth ++ [']'])
  | object [] => ['{', '}']
  | object (field :: fields) =>
      '{' :: (indentedFields (depth + 1) (field :: fields) ++ newline depth ++ ['}'])

/-- The items of an array, each on a line of its own. -/
def indentedItems (depth : Nat) : List Json → Text
  | [] => []
  | [item] => newline depth ++ indentedAt depth item
  | item :: items => newline depth ++ indentedAt depth item ++ ',' :: indentedItems depth items

/-- The fields of an object, each on a line of its own. -/
def indentedFields (depth : Nat) : List (String × Json) → Text
  | [] => []
  | [(name, value)] => newline depth ++ quote name.toList ++ ':' :: ' ' :: indentedAt depth value
  | (name, value) :: fields =>
      newline depth ++ quote name.toList ++ ':' :: ' ' ::
        (indentedAt depth value ++ ',' :: indentedFields depth fields)

end

/-- A value with line breaks and indentation. -/
def indented (value : Json) : Text :=
  indentedAt 0 value

end Json
end SearchPhrase
