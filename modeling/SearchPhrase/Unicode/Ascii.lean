import SearchPhrase.Unicode.Lowercase
import SearchPhrase.Unicode.Numeric
import SearchPhrase.Text.Basic
import SearchPhrase.Unicode.Word

/-!
# ASCII characters

On ASCII characters the properties of Unicode are the familiar classes of letters and digits, and a
text of such characters is put into lower case letter by letter.
-/

namespace SearchPhrase
namespace Unicode

/-- What holds of each of the first code points holds of each ASCII character. -/
theorem forall_ascii {P : Char → Prop} (each : ∀ n < 128, P (Char.ofNat n)) {c : Char}
    (ascii : c.toNat < 128) : P c := by
  have known := each c.toNat ascii
  rwa [Char.ofNat_toNat] at known

theorem isWhiteSpace_ascii {c : Char} (ascii : c.toNat < 128) :
    isWhiteSpace c = (c.isWhitespace || c == Char.ofNat 11 || c == Char.ofNat 12) :=
  forall_ascii
    (P := fun c => isWhiteSpace c = (c.isWhitespace || c == Char.ofNat 11 || c == Char.ofNat 12))
    (by decide) ascii

/-- The digits that numerals are written with are ASCII. -/
theorem ascii_of_isDigit {c : Char} (digit : c.isDigit = true) : c.toNat < 128 := by
  simp only [Char.isDigit, Bool.and_eq_true, decide_eq_true_eq] at digit
  exact Nat.lt_of_le_of_lt (UInt32.le_iff_toNat_le.1 digit.2) (by decide)

theorem isDecimalDigit_ascii {c : Char} (ascii : c.toNat < 128) : isDecimalDigit c = c.isDigit :=
  forall_ascii (P := fun c => isDecimalDigit c = c.isDigit) (by decide) ascii

theorem isAlphabetic_ascii {c : Char} (ascii : c.toNat < 128) : isAlphabetic c = c.isAlpha :=
  forall_ascii (P := fun c => isAlphabetic c = c.isAlpha) (by decide) ascii

theorem isAlphanumeric_ascii {c : Char} (ascii : c.toNat < 128) :
    isAlphanumeric c = c.isAlphanum :=
  forall_ascii (P := fun c => isAlphanumeric c = c.isAlphanum) (by decide) ascii

theorem isWordDigit_ascii {c : Char} (ascii : c.toNat < 128) : isWordDigit c = c.isDigit :=
  forall_ascii (P := fun c => isWordDigit c = c.isDigit) (by decide) ascii

theorem isWord_ascii {c : Char} (ascii : c.toNat < 128) : isWord c = (c.isAlphanum || c == '_') :=
  forall_ascii (P := fun c => isWord c = (c.isAlphanum || c == '_')) (by decide) ascii

theorem lowerChar_ascii {c : Char} (ascii : c.toNat < 128) : lowerChar c = [c.toLower] :=
  if_pos ascii

theorem lowercaseAfter_ascii (before : List Char) {text : List Char}
    (ascii : ∀ c ∈ text, c.toNat < 128) : lowercaseAfter before text = text.map Char.toLower := by
  induction text generalizing before with
  | nil => rfl
  | cons c rest ih =>
      have first := ascii c (by simp)
      have notSigma : c ≠ capitalSigma := by
        rintro rfl
        exact absurd first (by decide)
      rw [lowercaseAfter, if_neg notSigma, lowerChar_ascii first,
        ih _ fun d member => ascii d (List.mem_cons_of_mem _ member), List.map_cons,
        List.singleton_append]

/-- A text of ASCII characters is put into lower case letter by letter. -/
theorem lowercase_ascii {text : List Char} (ascii : ∀ c ∈ text, c.toNat < 128) :
    lowercase text = text.map Char.toLower :=
  lowercaseAfter_ascii [] ascii

end Unicode
end SearchPhrase
