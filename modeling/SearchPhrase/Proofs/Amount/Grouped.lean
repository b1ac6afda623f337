import Mathlib.Data.List.Basic
import SearchPhrase.Record.Summary
import SearchPhrase.Proofs.Amount.Commas

/-!
# Numerals in groups

The comma rule of a displayed amount looks at the digits that are still to come, so that it groups
from the right what is written from the left.  The groups of every amount are three digits long, but
for the first, which may be shorter, and what is displayed is read again as the amount.
-/

namespace SearchPhrase
namespace Amount

theorem mem_groupDigits {c : Char} {text : Text} (member : c ∈ groupDigits text) :
    c = ',' ∨ c ∈ text := by
  induction text with
  | nil => exact absurd member List.not_mem_nil
  | cons digit rest ih =>
      rw [groupDigits] at member
      split at member
      all_goals
        simp only [List.mem_cons] at member ⊢
        grind

theorem mem_grouped {c : Char} {amount : UInt64} (member : c ∈ grouped amount) :
    c.isDigit = true ∨ c = ',' :=
  (mem_groupDigits member).symm.imp_left Text.isDigit_of_mem_numeral

/-- What groups add to digits are commas. -/
theorem filter_groupDigits {digits : Text} (plain : ',' ∉ digits) :
    (groupDigits digits).filter (· ≠ ',') = digits := by
  induction digits with
  | nil => rfl
  | cons digit rest ih =>
      obtain ⟨solid, plain⟩ := List.ne_and_not_mem_of_not_mem_cons plain
      rw [groupDigits]
      split
      all_goals simpa [solid.symm] using ih plain

theorem head?_groupDigits (digits : Text) : (groupDigits digits).head? = digits.head? := by
  cases digits with
  | nil => rfl
  | cons digit rest =>
      rw [groupDigits]
      split <;> rfl

theorem groupDigits_ne_nil {digits : Text} (nonempty : digits ≠ []) : groupDigits digits ≠ [] := by
  intro nothing
  have first := head?_groupDigits digits
  rw [nothing, List.head?_nil, eq_comm, List.head?_eq_none_iff] at first
  exact nonempty first

theorem getLast?_groupDigits (digits : Text) :
    (groupDigits digits).getLast? = digits.getLast? := by
  induction digits with
  | nil => rfl
  | cons digit rest ih =>
      by_cases nothing : rest = []
      · simp [nothing, groupDigits]
      · have there := groupDigits_ne_nil nothing
        have last : (digit :: rest).getLast? = (groupDigits rest).getLast? := by
          rw [ih]
          exact List.getLast?_append_of_ne_nil [digit] nothing
        rw [last, groupDigits]
        split
        · exact List.getLast?_append_of_ne_nil [digit, ','] there
        · exact List.getLast?_append_of_ne_nil [digit] there

/-- A row of digits falls into groups of three, of which the first may be shorter. -/
structure IsGrouping (first : Text) (others : List Text) : Prop where
  /-- The first group has a digit. -/
  nonempty : 1 ≤ first.length
  /-- The first group has no more digits than the others. -/
  short : first.length ≤ 3
  /-- The other groups have three digits. -/
  full : ∀ group ∈ others, group.length = 3

/-- How many digits are not in the first group is a multiple of three. -/
theorem IsGrouping.length_flatten
    {first : Text}
    {others : List Text}
    (grouping : IsGrouping first others) :
    (first :: others).flatten.length = first.length + 3 * others.length := by
  have lengths : others.map List.length = List.replicate others.length 3 :=
    List.map_eq_replicate_iff.2 grouping.full
  rw [List.flatten_cons, List.length_append, List.length_flatten, lengths,
    List.sum_replicate_nat, mul_comm]

/-- A row of digits is written as its groups with commas between them. -/
theorem exists_groups {digits : Text} (nonempty : digits ≠ []) :
    ∃ first others, IsGrouping first others ∧ (first :: others).flatten = digits ∧
      groupDigits digits = List.intercalate [','] (first :: others) := by
  induction digits with
  | nil => exact absurd rfl nonempty
  | cons digit rest ih =>
      by_cases last : rest = []
      · subst last
        exact ⟨[digit], [], ⟨by simp, by simp, by simp⟩, rfl, rfl⟩
      · obtain ⟨first, others, grouping, rfl, written⟩ := ih last
        have count := grouping.length_flatten
        have there := grouping.nonempty
        have atMost := grouping.short
        rw [groupDigits]
        split
        · next ends =>
            -- A multiple of three digits to come makes a full group of the first one.
            refine ⟨[digit], first :: others, ⟨by simp, by simp, ?_⟩, rfl, ?_⟩
            · rw [List.forall_mem_cons]
              exact ⟨by omega, grouping.full⟩
            · rw [written, List.intercalate_cons_cons]
              rfl
        · next goesOn =>
            have short : first.length ≠ 3 := by
              intro full
              exact goesOn ⟨last, by omega⟩
            refine ⟨digit :: first, others, ⟨by simp, ?_, grouping.full⟩, rfl, ?_⟩
            · rw [List.length_cons]
              omega
            · rw [written]
              cases others <;> rfl

theorem not_mem_numeral (n : Nat) : ',' ∉ Text.numeral n :=
  fun member => absurd (Text.isDigit_of_mem_numeral member) (by decide)

theorem filter_grouped (amount : UInt64) :
    (grouped amount).filter (· ≠ ',') = Text.numeral amount.toNat :=
  filter_groupDigits (not_mem_numeral _)

theorem isNumeric_grouped (amount : UInt64) : IsNumeric (grouped amount) where
  made := fun _ => mem_grouped
  counts := by
    obtain ⟨c, member⟩ := List.exists_mem_of_ne_nil _ (Text.numeral_ne_nil amount.toNat)
    refine ⟨c, ?_, Text.isDigit_of_mem_numeral member⟩
    rw [← filter_grouped] at member
    exact (List.mem_filter.1 member).1

theorem spelled_grouped (amount : UInt64) : spelled (grouped amount) = amount.toNat := by
  rw [spelled, filter_grouped]
  exact Nat.ofDigitChars_toDigits (by decide) (by decide)

/-- An amount is displayed by its digits in groups of three, of which the first may be shorter, with
a single comma between groups and none at either end; and if it is a number that is kept as it is,
it is read back from its display. -/
theorem grouped_groups (amount : UInt64) :
    (grouped amount).filter (· ≠ ',') = Text.numeral amount.toNat ∧
      (grouped amount).head? ≠ some ',' ∧ (grouped amount).getLast? ≠ some ',' ∧
      (∃ first others, List.splitOn ',' (grouped amount) = first :: others ∧
        1 ≤ first.length ∧ first.length ≤ 3 ∧ ∀ group ∈ others, group.length = 3) ∧
      (amount.toNat ≤ 2 ^ 53 → read? (grouped amount) none = some amount) := by
  have plain := not_mem_numeral amount.toNat
  refine ⟨filter_grouped amount, ?_, ?_, ?_, ?_⟩
  · rw [grouped, head?_groupDigits]
    exact fun comma => plain (List.mem_of_head? comma)
  · rw [grouped, getLast?_groupDigits]
    exact fun comma => plain (List.mem_of_getLast? comma)
  · obtain ⟨first, others, grouping, digits, written⟩ :=
      exists_groups (Text.numeral_ne_nil amount.toNat)
    refine ⟨first, others, ?_, grouping.nonempty, grouping.short, grouping.full⟩
    rw [grouped, written]
    apply List.splitOn_intercalate
    · intro group member comma
      apply plain
      rw [← digits]
      exact List.mem_flatten_of_mem member comma
    · exact List.cons_ne_nil _ _
  · intro small
    have value : spelled (grouped amount) * scale none = amount.toNat := by
      rw [spelled_grouped]
      exact mul_one _
    rw [read?_of_isNumeric (isNumeric_grouped amount) (value ▸ small), value,
      UInt64.ofNat_toNat]

/-- A million and a half has a first group of one digit, and is read back. -/
theorem grouped_groups_million :
    (1500000 : UInt64).toNat ≤ 2 ^ 53 ∧ grouped 1500000 = "1,500,000".toList ∧
      read? "1,500,000".toList none = some 1500000 := by
  have shown : grouped 1500000 = "1,500,000".toList := by decide
  have small : (1500000 : UInt64).toNat ≤ 2 ^ 53 := by decide
  obtain ⟨-, -, -, -, reads⟩ := grouped_groups 1500000
  exact ⟨small, shown, shown ▸ reads small⟩

end Amount
end SearchPhrase
