import SearchPhrase.Proofs.Amount.Whole

/-!
# Amounts with commas

Commas may stand anywhere among the digits of an amount, and zeros in front of them, in any number.
Such an amount is read as the number that its digits spell, counted in the unit of its letter, as
long as the product is a number that no rounding changes.
-/

namespace SearchPhrase
namespace Amount

/-- The number that the digits of a text spell when its commas are passed over. -/
def spelled (number : Text) : Nat :=
  Nat.ofDigitChars 10 (number.filter (· ≠ ',')) 0

/-- A text is made up of digits and commas and has a digit. -/
structure IsNumeric (number : Text) : Prop where
  /-- There is nothing else in it. -/
  made : ∀ c ∈ number, c.isDigit = true ∨ c = ','
  /-- There is a digit. -/
  counts : ∃ c ∈ number, c.isDigit = true

/-- The letters that an amount may be counted by, with what they stand for. -/
def units : List (Option Text × Nat) :=
  [(none, 1), (some ['k'], 1000), (some ['K'], 1000), (some ['m'], 1000000),
    (some ['M'], 1000000)]

theorem scale_of_mem_units
    {suffix : Option Text}
    {unit : Nat}
    (known : (suffix, unit) ∈ units) :
    scale suffix = unit := by
  have each : ∀ entry ∈ units, scale entry.1 = entry.2 := by decide
  exact each _ known

/-- Commas have no part in what is read. -/
theorem read?_filter (number : Text) (suffix : Option Text) :
    read? (number.filter (· ≠ ',')) suffix = read? number suffix := by
  simp only [read?, List.filter_filter, Bool.and_self]

section Numeric

variable {number : Text} {suffix : Option Text}

theorem IsNumeric.isDigit
    (numeric : IsNumeric number)
    {c : Char}
    (kept : c ∈ number.filter (· ≠ ',')) :
    c.isDigit = true := by
  obtain ⟨member, solid⟩ := List.mem_filter.1 kept
  apply (numeric.made c member).resolve_right
  exact of_decide_eq_true solid

theorem IsNumeric.ne_nil (numeric : IsNumeric number) : number.filter (· ≠ ',') ≠ [] := by
  obtain ⟨c, member, digit⟩ := numeric.counts
  apply List.ne_nil_of_mem
  refine List.mem_filter.2 ⟨member, decide_eq_true ?_⟩
  rintro rfl
  simp at digit

/-- An amount of digits and commas is read as the number that the digits spell, in the unit of the
letter that follows them. -/
theorem read?_of_isNumeric
    (numeric : IsNumeric number)
    (small : spelled number * scale suffix ≤ 2 ^ significantBits) :
    read? number suffix = some (UInt64.ofNat (spelled number * scale suffix)) := by
  rw [← read?_filter]
  exact read?_digits numeric.ne_nil (fun _ => numeric.isDigit) small

/-- An amount of digits and commas is read as the exact number that it stands for, whatever zeros
and commas it is written with, up to the greatest number to which all numbers are kept as they
are. -/
theorem toNat_read?_numeric
    (numeric : IsNumeric number)
    {unit : Nat}
    (known : (suffix, unit) ∈ units)
    (small : spelled number * unit ≤ 2 ^ 53) :
    (read? number suffix).map UInt64.toNat = some (spelled number * unit) := by
  obtain rfl := scale_of_mem_units known
  have fits : spelled number * scale suffix < UInt64.size := small.trans_lt (by decide)
  rw [read?_of_isNumeric numeric small, Option.map_some, UInt64.toNat_ofNat_of_lt' fits]

/-- A number with a zero in front and a comma behind is counted in millions. -/
theorem toNat_read?_numeric_millions :
    IsNumeric "0,9007199,254,".toList ∧ (some ['M'], 1000000) ∈ units ∧
      spelled "0,9007199,254,".toList * 1000000 ≤ 2 ^ 53 ∧
      (read? "0,9007199,254,".toList (some ['M'])).map UInt64.toNat = some 9007199254000000 := by
  have numeric : IsNumeric "0,9007199,254,".toList := ⟨by decide, '9', by decide, by decide⟩
  have known : (some ['M'], 1000000) ∈ units := by decide
  have small : spelled "0,9007199,254,".toList * 1000000 ≤ 2 ^ 53 := by decide
  exact ⟨numeric, known, small, toNat_read?_numeric numeric known small⟩

/-- The next number is not kept as it is. -/
example : read? "9,007,199,254,740,993".toList none = some 9007199254740992 := by
  decide +kernel

end Numeric

end Amount
end SearchPhrase
