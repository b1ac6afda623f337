import SearchPhrase.Json.RoundTrip

/-!
# Printable JSON

The compact layout of a value has no control characters, line feeds among them, whatever characters
its strings and names have.
-/

namespace SearchPhrase
namespace Json

/-- Whether a text has no control characters of ASCII below the blank. -/
def IsPrintable (text : Text) : Prop :=
  ∀ c ∈ text, 32 ≤ c.toNat

@[simp] theorem isPrintable_nil : IsPrintable [] :=
  fun _ member => absurd member List.not_mem_nil

@[simp] theorem isPrintable_cons {c : Char} {text : Text} :
    IsPrintable (c :: text) ↔ 32 ≤ c.toNat ∧ IsPrintable text :=
  List.forall_mem_cons

@[simp] theorem isPrintable_append {first second : Text} :
    IsPrintable (first ++ second) ↔ IsPrintable first ∧ IsPrintable second :=
  List.forall_mem_append

theorem IsPrintable.feed_not_mem {text : Text} (printable : IsPrintable text) : '\n' ∉ text :=
  fun member => absurd (printable '\n' member) (by decide)

theorem isPrintable_numeral (n : Nat) : IsPrintable (Text.numeral n) := by
  intro c member
  have digit := Text.isDigit_of_mem_numeral member
  simp only [Char.isDigit, Bool.and_eq_true, decide_eq_true_eq] at digit
  exact Nat.le_trans (by decide) (UInt32.le_iff_toNat_le.1 digit.1)

theorem isPrintable_escapeControl {c : Char} (control : c.toNat < 32) :
    IsPrintable (escapeControl c) := by
  have digits : ∀ n < 32, IsPrintable [Nat.digitChar (n / 16), Nat.digitChar (n % 16)] := by
    unfold IsPrintable
    decide
  rw [escapeControl]
  simpa using digits c.toNat control

/-- However a character is written within a string, that is printable. -/
theorem isPrintable_escapeChar (c : Char) : IsPrintable (escapeChar c) := by
  unfold escapeChar
  iterate 7
    split
    · simp
  split
  · next control => exact isPrintable_escapeControl control
  · next printable => simpa using printable

theorem isPrintable_quote (text : Text) : IsPrintable (quote text) := by
  have inner : IsPrintable (text.flatMap escapeChar) := by
    intro c member
    obtain ⟨d, -, inside⟩ := List.mem_flatMap.1 member
    exact isPrintable_escapeChar d c inside
  simp [quote, inner]

mutual

/-- The compact layout of a value is printable. -/
theorem isPrintable_compact (value : Json) (plain : HasNumerals value) :
    IsPrintable (compact value) := by
  match value with
  | null => simp [compact]
  | bool value => cases value <;> simp [compact, boolText]
  | number literal =>
      obtain ⟨n, rfl⟩ := plain
      exact isPrintable_numeral n
  | string value => exact isPrintable_quote value.toList
  | array items => simp [compact, isPrintable_compactItems items plain]
  | object fields => simp [compact, isPrintable_compactFields fields plain]

theorem isPrintable_compactItems (items : List Json) (plain : ItemsHaveNumerals items) :
    IsPrintable (compactItems items) := by
  match items with
  | [] => exact isPrintable_nil
  | [item] => exact isPrintable_compact item plain.1
  | item :: next :: items =>
      have tail := isPrintable_compactItems (next :: items) plain.2
      simp [compactItems, isPrintable_compact item plain.1, tail]

theorem isPrintable_compactFields
    (fields : List (String × Json)) (plain : FieldsHaveNumerals fields) :
    IsPrintable (compactFields fields) := by
  match fields with
  | [] => exact isPrintable_nil
  | [(name, value)] =>
      simp [compactFields, isPrintable_quote, isPrintable_compact value plain.1]
  | (name, value) :: next :: fields =>
      have tail := isPrintable_compactFields (next :: fields) plain.2
      simp [compactFields, isPrintable_quote, isPrintable_compact value plain.1, tail]

end

end Json
end SearchPhrase
