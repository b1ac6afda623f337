import SearchPhrase.Proofs.Phrase.Expressions
import SearchPhrase.Proofs.Phrase.FigurePasses

/-!
# The cores of prices

A price that is read may end in commas, which belong to its last number but to none of its words,
and a range may begin with a sign that stands apart from its first number.  Without these, a price
begins and ends with a word or a sign right before one, and the patterns that clear the keywords
take it wherever it stands between words.
-/

namespace SearchPhrase

open Cursor Figure Pattern Text Unicode

namespace Text

variable {before text after : Text}

/-- A word that is not gone on into begins at an edge. -/
theorem atBoundary_of_apart
    (apart : Apart before text)
    (starts : startsWithWord text = true)
    (rest : Text) :
    atBoundary ⟨before, text ++ rest⟩ = true := by
  have nonempty : text ≠ [] := by
    rintro rfl
    cases starts
  have fresh := apart.resolve_right (by simp [starts])
  rw [atBoundary, startsWithWord_append nonempty, starts, fresh]
  rfl

/-- A word that does not go on ends at an edge. -/
theorem atBoundary_of_apart'
    (apart : Apart text.reverse after)
    (ends : startsWithWord text.reverse = true)
    (before : Text) :
    atBoundary ⟨text.reverse ++ before, after⟩ = true := by
  have nonempty : text.reverse ≠ [] := by
    intro none
    rw [none] at ends
    cases ends
  rw [atBoundary_of_ended (apart.resolve_left (by simp [ends])), startsWithWord_append nonempty,
    ends]

/-- A text ends like its last part. -/
theorem startsWithWord_reverse_append
    (nonempty : text ≠ [])
    (before : Text) :
    startsWithWord (before ++ text).reverse = startsWithWord text.reverse := by
  rw [List.reverse_append, startsWithWord_append (by simpa using nonempty)]

end Text

namespace Figure

/-- An amount without a sign begins with a word. -/
theorem Sum.startsWithWord_text
    {sum : Sum}
    (unsigned : sum.sign = []) :
    startsWithWord sum.text = true := by
  rw [Sum.text, unsigned, List.nil_append]
  exact startsWithWord_of_startsWithDigit (sum.isNumber.startsWithDigit _)

/-- An amount without its sign. -/
def Sum.unsigned (sum : Sum) : Sum :=
  { sum with sign := [], isSign := .inl rfl }

theorem IsSign.isWordless {sign : Text} (isSign : IsSign sign) : IsWordless sign := by
  rcases isSign with rfl | ⟨gap, rfl, blank⟩
  · exact isWordless_nil
  · intro c member
    rcases List.mem_cons.1 member with rfl | member
    · decide
    · exact isWord_of_isBlank blank c member

theorem isWordless_of_commas {commas : Text} (all : ∀ c ∈ commas, c = ',') : IsWordless commas := by
  intro c member
  rw [all c member]
  decide

/-- An amount as far as its last word. -/
theorem Sum.exists_wordless
    (sum : Sum) :
    ∃ (core : Sum) (commas : Text), sum.text = core.text ++ commas ∧ IsWordless commas ∧
      startsWithWord core.text.reverse = true ∧ core.sign = sum.sign ∧ core.letter = sum.letter ∧
      sum.digits = core.digits ++ commas ∧ ∀ c ∈ commas, c = ',' := by
  obtain ⟨core, commas, same, sign, letter, digits, all, ends⟩ := sum.exists_core
  exact ⟨core, commas, same, isWordless_of_commas all, ends, sign, letter, digits, all⟩

/-- A limit as far as its last word. -/
theorem LimitText.exists_core
    {side : Side}
    (limit : LimitText side) :
    ∃ (core : LimitText side) (commas : Text), limit.text = core.text ++ commas ∧
      IsWordless commas ∧ startsWithWord core.sum.text.reverse = true := by
  obtain ⟨sum, commas, same, wordless, ends, sign, -⟩ := limit.sum.exists_wordless
  refine ⟨{ limit with sum, close := sign ▸ limit.close }, commas, ?_, wordless, ends⟩
  simp only [text, same, List.append_assoc]

/-- An amount between two others as far as its last word. -/
theorem BetweenText.exists_core (range : BetweenText) :
    ∃ (core : BetweenText) (commas : Text), range.text = core.text ++ commas ∧
      IsWordless commas ∧ startsWithWord core.second.text.reverse = true := by
  obtain ⟨second, commas, same, wordless, ends, sign, -⟩ := range.second.exists_wordless
  have close : range.first.sign.length ≤ 2 ∧ second.sign.length ≤ 2 := by
    rw [sign]
    exact range.close
  refine ⟨{ range with second, close }, commas, ?_, wordless, ends⟩
  rw [text, same, ← List.append_assoc]
  rfl

/-- A range as far as its last word, with a sign only if it stands right before the first number. -/
structure RangeCore (range : RangeText) where
  /-- The sign that is left out. -/
  head : Text
  /-- The range that is left. -/
  core : RangeText
  /-- The commas that are left out. -/
  commas : Text
  /-- Together they are the range. -/
  whole : range.text = head ++ (core.text ++ commas)
  /-- A sign right before the first number stays, and no other. -/
  signed : (range.first.sign = ['$'] ∧ core.first.sign = ['$'] ∧ head = []) ∨
    (range.first.sign ≠ ['$'] ∧ core.first.sign = [] ∧ head = range.first.sign)
  /-- The first number stays. -/
  digits : range.first.digits = core.first.digits
  /-- Its letter stays. -/
  letter : core.first.letter = range.first.letter
  /-- The sign of the second number stays. -/
  sign' : core.second.sign = range.second.sign
  /-- The second number stays but for the commas. -/
  digits' : range.second.digits = core.second.digits ++ commas
  /-- Its letter stays. -/
  letter' : core.second.letter = range.second.letter
  /-- The second number ends in nothing but commas. -/
  all : ∀ c ∈ commas, c = ','
  /-- The range that is left ends in a word. -/
  ends : startsWithWord core.second.text.reverse = true

theorem nonempty_rangeCore (range : RangeText) : Nonempty (RangeCore range) := by
  obtain ⟨second, commas, same, -, ends, sign, letter, digits, all⟩ := range.second.exists_wordless
  have close : second.sign.length ≤ 2 := by
    rw [sign]
    exact range.close.2
  by_cases signed : range.first.sign = ['$']
  · refine ⟨⟨[], { range with second, close := ⟨range.close.1, close⟩ }, commas, ?_,
      .inl ⟨signed, signed, rfl⟩, rfl, rfl, sign, digits, letter, all, ends⟩⟩
    simp [RangeText.text, RangeText.middle, same]
  · have parts : range.first.text = range.first.sign ++ range.first.unsigned.text := by
      simp [Sum.text, Sum.unsigned]
    refine ⟨⟨range.first.sign, { range with
        first := range.first.unsigned, second, close := ⟨Nat.zero_le 2, close⟩ }, commas, ?_,
      .inr ⟨signed, rfl, rfl⟩, rfl, rfl, sign, digits, letter, all, ends⟩⟩
    simp [RangeText.text, RangeText.middle, same, parts]

namespace RangeCore

variable {range : RangeText} (trimmed : RangeCore range)

/-- No word is left out before a range. -/
theorem isWordless_head : IsWordless trimmed.head := by
  rcases trimmed.signed with ⟨-, -, none⟩ | ⟨-, -, sign⟩
  · rw [none]
    exact isWordless_nil
  · rw [sign]
    exact range.first.isSign.isWordless

/-- The first amount of a range is worth the same without what is left out. -/
theorem value?_first : range.first.value? = trimmed.core.first.value? := by
  rw [Sum.value?, Sum.value?, Sum.suffix?, Sum.suffix?, trimmed.letter, trimmed.digits]

/-- The second amount of a range is worth the same without what is left out. -/
theorem value?_second : range.second.value? = trimmed.core.second.value? :=
  Sum.value?_eq_of_core trimmed.letter' trimmed.digits' trimmed.all

end RangeCore

/-- A range ends like its second amount. -/
theorem RangeText.startsWithWord_reverse
    {range : RangeText}
    (ends : startsWithWord range.second.text.reverse = true) :
    startsWithWord range.text.reverse = true := by
  rwa [RangeText.text, ← List.append_assoc, startsWithWord_reverse_append range.second.text_ne_nil]

/-- A range without a sign begins with a word. -/
theorem RangeText.startsWithWord_text
    {range : RangeText}
    (unsigned : range.first.sign = []) :
    startsWithWord range.text = true := by
  rw [RangeText.text, startsWithWord_append range.first.text_ne_nil]
  exact Sum.startsWithWord_text unsigned

end Figure

namespace Keywords

theorem takesAlone_limit
    {side : Side}
    {limit : LimitText side}
    (ends : startsWithWord limit.sum.text.reverse = true) :
    TakesAlone limitExpression limit.text := by
  intro before after opens closes
  have last : startsWithWord limit.text.reverse = true := by
    rwa [LimitText.text, ← List.append_assoc, startsWithWord_reverse_append limit.sum.text_ne_nil]
  exact takes_limitExpression.2 ⟨side, limit, [], (List.append_nil _).symm, .inl rfl,
    atBoundary_of_apart opens (limit.announces.startsWithWord _) after,
    atBoundary_of_apart' closes last before⟩

theorem takesAlone_between
    {range : BetweenText}
    (ends : startsWithWord range.second.text.reverse = true) :
    TakesAlone betweenExpression range.text := by
  intro before after opens closes
  have last : startsWithWord range.text.reverse = true := by
    rwa [BetweenText.text, startsWithWord_reverse_append range.second.text_ne_nil]
  exact takes_betweenExpression.2 ⟨range, rfl, atBoundary_of_apart opens rfl after,
    atBoundary_of_apart' closes last before⟩

section Ranges

variable {range : RangeText} (ends : startsWithWord range.second.text.reverse = true)

include ends

theorem takesAlone_currencyRange
    (sign : range.first.sign = ['$']) :
    TakesAlone currencyRange range.text := by
  intro before after _ closes
  exact takes_currencyRange.2 ⟨range, rfl, sign,
    atBoundary_of_apart' closes (RangeText.startsWithWord_reverse ends) before⟩

theorem takesAlone_scaledRange
    (unsigned : range.first.sign = [])
    (scaled : range.first.letter ≠ []) :
    TakesAlone scaledRange range.text := by
  intro before after opens closes
  exact takes_scaledRange.2 ⟨range, rfl, unsigned, scaled,
    atBoundary_of_apart opens (RangeText.startsWithWord_text unsigned) after,
    atBoundary_of_apart' closes (RangeText.startsWithWord_reverse ends) before⟩

theorem takesAlone_plainForm
    (plain : range.IsPlain) :
    TakesAlone plainForm range.text := by
  intro before after opens closes
  exact takes_plainForm.2 ⟨range, [], (List.append_nil _).symm, plain,
    atBoundary_of_apart opens (RangeText.startsWithWord_text plain.sign) after,
    atBoundary_of_apart' closes (RangeText.startsWithWord_reverse ends) before, .inl rfl,
    fun nonempty => absurd rfl nonempty⟩

end Ranges

end Keywords
end SearchPhrase
