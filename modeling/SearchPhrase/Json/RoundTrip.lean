import SearchPhrase.Json.Reader
import SearchPhrase.Json.Token.Lemmas

/-!
# Reading JSON back

A printed value, in either layout, is read as that value.  Both layouts have the tokens of the
value, and the reader's machine takes the tokens of a value for one step.
-/

namespace SearchPhrase
namespace Json

mutual

/-- The tokens that a value is written with. -/
def tokensOf : Json → List Token
  | null => [.null]
  | bool value => [.bool value]
  | number literal => [.number literal]
  | string value => [.string (some value.toList)]
  | array items => .openArray :: (itemTokens items ++ [.closeArray])
  | object fields => .openObject :: (fieldTokens fields ++ [.closeObject])

/-- The tokens that the items of an array are written with. -/
def itemTokens : List Json → List Token
  | [] => []
  | [item] => tokensOf item
  | item :: items => tokensOf item ++ .comma :: itemTokens items

/-- The tokens that the fields of an object are written with. -/
def fieldTokens : List (String × Json) → List Token
  | [] => []
  | [(name, value)] => .string (some name.toList) :: .colon :: tokensOf value
  | (name, value) :: fields =>
      .string (some name.toList) :: .colon :: (tokensOf value ++ .comma :: fieldTokens fields)

end

mutual

/-- Every number of the value is spelled as the numeral of a natural number. -/
def HasNumerals : Json → Prop
  | number literal => ∃ n, literal = Text.numeral n
  | array items => ItemsHaveNumerals items
  | object fields => FieldsHaveNumerals fields
  | _ => True

/-- Every number of the items is spelled as the numeral of a natural number. -/
def ItemsHaveNumerals : List Json → Prop
  | [] => True
  | item :: items => HasNumerals item ∧ ItemsHaveNumerals items

/-- Every number of the fields is spelled as the numeral of a natural number. -/
def FieldsHaveNumerals : List (String × Json) → Prop
  | [] => True
  | (_, value) :: fields => HasNumerals value ∧ FieldsHaveNumerals fields

end

theorem itemsHaveNumerals_iff {items : List Json} :
    ItemsHaveNumerals items ↔ ∀ item ∈ items, HasNumerals item := by
  induction items with
  | nil => simp [ItemsHaveNumerals]
  | cons item items ih => simp [ItemsHaveNumerals, ih]

theorem fieldsHaveNumerals_iff {fields : List (String × Json)} :
    FieldsHaveNumerals fields ↔ ∀ field ∈ fields, HasNumerals field.2 := by
  induction fields with
  | nil => simp [FieldsHaveNumerals]
  | cons field fields ih => simp [FieldsHaveNumerals, ih]

/-- The white space that begins a new line is no token. -/
theorem tokens_newline_append (depth : Nat) (rest : Text) :
    tokens (newline depth ++ rest) = tokens rest := by
  rw [newline, List.cons_append, tokens_blank (by decide)]
  induction 2 * depth with
  | zero => rfl
  | succ count ih => rw [List.replicate_succ, List.cons_append, tokens_space, ih]

theorem endsNumber_newline_append (depth : Nat) (rest : Text) :
    EndsNumber (newline depth ++ rest) :=
  endsNumber_cons (by decide) _

mutual

/-- The compact layout of a value has the tokens of the value. -/
theorem tokens_compact_append (value : Json) (plain : HasNumerals value) {rest : Text}
    (ends : EndsNumber rest) : tokens (compact value ++ rest) = tokensOf value ++ tokens rest := by
  match value with
  | null => exact tokens_append rfl (by decide) rfl
  | bool value => cases value <;> exact tokens_append rfl (by decide) rfl
  | number literal =>
      obtain ⟨n, rfl⟩ := plain
      exact tokens_numeral_append n ends
  | string value => exact tokens_quote_append value.toList rest
  | array items =>
      have body := tokens_compactItems_append items plain (endsNumber_closeArray rest)
      simp [compact, tokensOf, body]
  | object fields =>
      have body := tokens_compactFields_append fields plain (endsNumber_closeObject rest)
      simp [compact, tokensOf, body]

theorem tokens_compactItems_append (items : List Json) (plain : ItemsHaveNumerals items)
    {rest : Text} (ends : EndsNumber rest) :
    tokens (compactItems items ++ rest) = itemTokens items ++ tokens rest := by
  match items with
  | [] => rfl
  | [item] => exact tokens_compact_append item plain.1 ends
  | item :: next :: items =>
      have tail := tokens_compactItems_append (next :: items) plain.2 ends
      simp [compactItems, itemTokens, tail, tokens_compact_append item plain.1 (endsNumber_comma _)]

theorem tokens_compactFields_append (fields : List (String × Json))
    (plain : FieldsHaveNumerals fields) {rest : Text} (ends : EndsNumber rest) :
    tokens (compactFields fields ++ rest) = fieldTokens fields ++ tokens rest := by
  match fields with
  | [] => rfl
  | [(name, value)] =>
      have body := tokens_compact_append value plain.1 ends
      simp [compactFields, fieldTokens, tokens_quote_append, body]
  | (name, value) :: next :: fields =>
      have tail := tokens_compactFields_append (next :: fields) plain.2 ends
      simp [compactFields, fieldTokens, tokens_quote_append, tail,
        tokens_compact_append value plain.1 (endsNumber_comma _)]

end

mutual

/-- The indented layout of a value has the tokens of the value. -/
theorem tokens_indentedAt_append (depth : Nat) (value : Json) (plain : HasNumerals value)
    {rest : Text} (ends : EndsNumber rest) :
    tokens (indentedAt depth value ++ rest) = tokensOf value ++ tokens rest := by
  match value with
  | null => exact tokens_append rfl (by decide) rfl
  | bool value => cases value <;> exact tokens_append rfl (by decide) rfl
  | number literal =>
      obtain ⟨n, rfl⟩ := plain
      exact tokens_numeral_append n ends
  | string value => exact tokens_quote_append value.toList rest
  | array [] => rfl
  | array (item :: items) =>
      have body := tokens_indentedItems_append (depth + 1) (item :: items) plain
        (endsNumber_newline_append depth (']' :: rest))
      simp [indentedAt, tokensOf, tokens_newline_append, body]
  | object [] => rfl
  | object (field :: fields) =>
      have body := tokens_indentedFields_append (depth + 1) (field :: fields) plain
        (endsNumber_newline_append depth ('}' :: rest))
      simp [indentedAt, tokensOf, tokens_newline_append, body]

theorem tokens_indentedItems_append (depth : Nat) (items : List Json)
    (plain : ItemsHaveNumerals items) {rest : Text} (ends : EndsNumber rest) :
    tokens (indentedItems depth items ++ rest) = itemTokens items ++ tokens rest := by
  match items with
  | [] => rfl
  | [item] =>
      have body := tokens_indentedAt_append depth item plain.1 ends
      simp [indentedItems, itemTokens, tokens_newline_append, body]
  | item :: next :: items =>
      have tail := tokens_indentedItems_append depth (next :: items) plain.2 ends
      simp [indentedItems, itemTokens, tokens_newline_append, tail,
        tokens_indentedAt_append depth item plain.1 (endsNumber_comma _)]

theorem tokens_indentedFields_append (depth : Nat) (fields : List (String × Json))
    (plain : FieldsHaveNumerals fields) {rest : Text} (ends : EndsNumber rest) :
    tokens (indentedFields depth fields ++ rest) = fieldTokens fields ++ tokens rest := by
  match fields with
  | [] => rfl
  | [(name, value)] =>
      have body := tokens_indentedAt_append depth value plain.1 ends
      simp [indentedFields, fieldTokens, tokens_newline_append, tokens_quote_append, body]
  | (name, value) :: next :: fields =>
      have tail := tokens_indentedFields_append depth (next :: fields) plain.2 ends
      simp [indentedFields, fieldTokens, tokens_newline_append, tokens_quote_append, tail,
        tokens_indentedAt_append depth value plain.1 (endsNumber_comma _)]

end

/-- Go on from what has been read so far with some tokens. -/
def Progress.resume (strict : Bool) (rest : List Token) : Progress → Option (Json × List Token)
  | .reading stack next => readFrom strict stack next rest
  | .done value => some (value, rest)
  | .failed => none

theorem readFrom_cons (strict : Bool) (stack : List Frame) (next : Expectation) (token : Token)
    (rest : List Token) :
    readFrom strict stack next (token :: rest) =
      (Progress.step strict stack next token).resume strict rest := by
  rw [readFrom]
  cases Progress.step strict stack next token <;> rfl

/-- A value may come next. -/
def Expectation.AdmitsValue (next : Expectation) : Prop :=
  next = .value ∨ next = .firstItem

/-- The name of a field may come next. -/
def Expectation.AdmitsName (next : Expectation) : Prop :=
  next = .name ∨ next = .firstName

theorem readFrom_name (strict : Bool) (read : List (String × Json)) (stack : List Frame)
    {next : Expectation} (admits : next.AdmitsName) (name : String) (rest : List Token) :
    readFrom strict (.object read :: stack) next
        (.string (some name.toList) :: .colon :: rest) =
      readFrom strict (.field read name :: stack) .value rest := by
  rcases admits with rfl | rfl <;>
    simp [readFrom_cons, Progress.step, Progress.beginField, Progress.resume]

mutual

theorem readFrom_tokensOf_append (strict : Bool) (value : Json) (stack : List Frame)
    {next : Expectation} (admits : next.AdmitsValue) (rest : List Token) :
    readFrom strict stack next (tokensOf value ++ rest) =
      (Progress.complete value stack).resume strict rest := by
  match value with
  | null => rcases admits with rfl | rfl <;> exact readFrom_cons ..
  | bool value => rcases admits with rfl | rfl <;> exact readFrom_cons ..
  | number literal => rcases admits with rfl | rfl <;> exact readFrom_cons ..
  | string value =>
      rcases admits with rfl | rfl <;>
        simp [tokensOf, readFrom_cons, Progress.step, Progress.beginValue]
  | array [] =>
      rcases admits with rfl | rfl <;>
        simp [tokensOf, itemTokens, readFrom_cons, Progress.step, Progress.beginValue,
          Progress.resume, Progress.closeArray]
  | array (item :: items) =>
      have body := readFrom_itemTokens_append strict (item :: items) (by simp) [] stack
        (.inr rfl) rest
      rcases admits with rfl | rfl <;>
        simpa [tokensOf, readFrom_cons, Progress.step, Progress.beginValue, Progress.resume]
          using body
  | object [] =>
      rcases admits with rfl | rfl <;>
        simp [tokensOf, fieldTokens, readFrom_cons, Progress.step, Progress.beginValue,
          Progress.resume, Progress.closeObject]
  | object (field :: fields) =>
      have body := readFrom_fieldTokens_append strict (field :: fields) (by simp) [] stack
        (.inr rfl) rest
      rcases admits with rfl | rfl <;>
        simpa [tokensOf, readFrom_cons, Progress.step, Progress.beginValue, Progress.resume]
          using body

theorem readFrom_itemTokens_append (strict : Bool) (items : List Json) (nonempty : items ≠ [])
    (read : List Json) (stack : List Frame) {next : Expectation} (admits : next.AdmitsValue)
    (rest : List Token) :
    readFrom strict (.array read :: stack) next (itemTokens items ++ .closeArray :: rest) =
      (Progress.complete (.array (read.reverse ++ items)) stack).resume strict rest := by
  match items with
  | [] => exact absurd rfl nonempty
  | [item] =>
      rw [itemTokens, readFrom_tokensOf_append strict item _ admits]
      simp [Progress.complete, Progress.resume, readFrom_cons, Progress.step, Progress.closeArray]
  | item :: other :: items =>
      have tail := readFrom_itemTokens_append strict (other :: items) (by simp) (item :: read) stack
        (.inl rfl) rest
      rw [itemTokens, List.append_assoc, readFrom_tokensOf_append strict item _ admits]
      · simpa [Progress.complete, Progress.resume, readFrom_cons, Progress.step,
          Progress.afterComma] using tail
      · simp

theorem readFrom_fieldTokens_append (strict : Bool) (fields : List (String × Json))
    (nonempty : fields ≠ []) (read : List (String × Json)) (stack : List Frame)
    {next : Expectation} (admits : next.AdmitsName) (rest : List Token) :
    readFrom strict (.object read :: stack) next (fieldTokens fields ++ .closeObject :: rest) =
      (Progress.complete (.object (read.reverse ++ fields)) stack).resume strict rest := by
  match fields with
  | [] => exact absurd rfl nonempty
  | [(name, value)] =>
      rw [fieldTokens, List.cons_append, List.cons_append,
        readFrom_name strict read stack admits, readFrom_tokensOf_append strict value _ (.inl rfl)]
      simp [Progress.complete, Progress.resume, readFrom_cons, Progress.step, Progress.closeObject]
  | (name, value) :: other :: fields =>
      have tail := readFrom_fieldTokens_append strict (other :: fields) (by simp)
        ((name, value) :: read) stack (.inl rfl) rest
      rw [fieldTokens, List.cons_append, List.cons_append,
        readFrom_name strict read stack admits, List.append_assoc,
        readFrom_tokensOf_append strict value _ (.inl rfl)]
      · simpa [Progress.complete, Progress.resume, readFrom_cons, Progress.step,
          Progress.afterComma] using tail
      · simp

end

/-- A value is read from its tokens, and the tokens after it are left. -/
theorem read?_tokensOf_append (strict : Bool) (value : Json) (rest : List Token) :
    read? strict (tokensOf value ++ rest) = some (value, rest) :=
  readFrom_tokensOf_append strict value [] (.inl rfl) rest

theorem parse?_eq_some_of_tokens {text : Text} {value : Json}
    (same : tokens text = tokensOf value) : parse? text = some value := by
  rw [parse?, same, ← List.append_nil (tokensOf value), read?_tokensOf_append]

/-- The compact layout has the tokens of the value. -/
theorem tokens_compact {value : Json} (plain : HasNumerals value) :
    tokens value.compact = tokensOf value := by
  simpa [tokens, tokensAfter] using tokens_compact_append value plain endsNumber_nil

/-- A value in the compact layout is read back. -/
theorem parse?_compact {value : Json} (plain : HasNumerals value) :
    parse? value.compact = some value :=
  parse?_eq_some_of_tokens (tokens_compact plain)

/-- A value in the indented layout is read back. -/
theorem parse?_indented {value : Json} (plain : HasNumerals value) :
    parse? value.indented = some value :=
  parse?_eq_some_of_tokens (by
    simpa [indented, tokens, tokensAfter] using
      tokens_indentedAt_append 0 value plain endsNumber_nil)

end Json
end SearchPhrase
