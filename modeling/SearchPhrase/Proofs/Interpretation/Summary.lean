import SearchPhrase.Proofs.Interpretation.WellFormed
import SearchPhrase.Proofs.Record.Summary

/-!
# Summaries of phrases

Makes, places and colors come from lists of names without middle dots, and a model is a piece of a
text in lower case, which may hold a middle dot but no capital letter.  What a phrase is found to
mean can therefore be read off its summary, its keywords aside.
-/

namespace SearchPhrase

open Text

namespace Unicode

/-- The capital letters of the English alphabet are ASCII. -/
theorem ascii_of_isUpper {c : Char} (capital : c.isUpper = true) : c.toNat < 128 := by
  have within : 'A'.val ≤ c.val ∧ c.val ≤ 'Z'.val := of_decide_eq_true capital
  exact Nat.lt_of_le_of_lt (UInt32.le_iff_toNat_le.1 within.2) (by decide)

/-- What lower case leaves as it is is no such letter. -/
theorem isUpper_of_isSettled {c : Char} (settled : IsSettled c) : c.isUpper = false := by
  by_contra capital
  rw [Bool.not_eq_false] at capital
  have ascii := ascii_of_isUpper capital
  have moves : c.isUpper = true → c.toLower ≠ c :=
    forall_ascii (P := fun c => c.isUpper = true → c.toLower ≠ c) (by decide) ascii
  have kept := settled.2
  rw [lowerChar_ascii ascii] at kept
  exact moves capital (List.cons.inj kept).1

end Unicode

/-- A text in lower case holds no capital letter. -/
theorem Text.isUndivided_of_lowercase {text : Text} (lower : Unicode.lowercase text = text) :
    IsUndivided text := by
  apply isUndivided_of_isUpper
  intro c member
  rw [← lower] at member
  exact Unicode.isUpper_of_isSettled (Unicode.isSettled_of_mem_lowercase member)

namespace Interpretation

/-- The descriptions of a phrase can be told from what follows them in its summary. -/
theorem isTellable_filters (phrase : String) : (ofPhrase phrase).filters.IsTellable where
  make := by
    have plain : ∀ make ∈ Maker.makes, '·' ∉ (Maker.displayName make).toList := by decide +kernel
    intro make member
    obtain ⟨mention, found, rfl⟩ := Option.map_eq_some_iff.1 member
    obtain ⟨make, known, named⟩ := Maker.exists_of_read found
    exact isUndivided_of_not_mem (named ▸ plain make known)
  model := by
    intro model member
    have lower := (wellFormed_filters phrase).lowerModel model member
    exact isUndivided_of_lowercase lower
  location := by
    have plain : ∀ place ∈ Locality.places, '·' ∉ (Locality.displayName place).toList := by
      decide +kernel
    intro location member
    obtain ⟨mention, found, rfl⟩ := Option.map_eq_some_iff.1 member
    obtain ⟨place, known, named⟩ := Locality.exists_of_read found
    exact isUndivided_of_not_mem (named ▸ plain place known)
  color := by
    have plain : ∀ color ∈ Traits.colors, '·' ∉ (Traits.displayColor color).toList := by
      decide +kernel
    intro color member
    obtain ⟨name, found, rfl⟩ := Option.map_eq_some_iff.1 member
    exact isUndivided_of_not_mem (plain name (List.mem_of_find?_eq_some found))

/-- Phrases have the same summary, or both have none, exactly if their filters agree on everything
but the keywords. -/
theorem interpretedAs_eq_iff (first second : String) :
    (ofPhrase first).interpretedAs = (ofPhrase second).interpretedAs ↔
      { (ofPhrase first).filters with query := "" } =
        { (ofPhrase second).filters with query := "" } := by
  have uncategorized (phrase : String) :
      { (ofPhrase phrase).filters with category := none, query := "" } =
        { (ofPhrase phrase).filters with query := "" } := rfl
  have told := FilterRecord.summary?_eq_iff (isTellable_filters first) (isTellable_filters second)
  rwa [uncategorized, uncategorized] at told

/-- A middle dot at the end of a model is no separator. -/
example : (ofPhrase "Toyota GT · 2015").interpretedAs =
    some "Make: Toyota · Model: gt · · Year: 2015" := by
  decide +kernel

end Interpretation
end SearchPhrase
