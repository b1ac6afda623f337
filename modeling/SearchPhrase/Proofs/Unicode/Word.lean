import SearchPhrase.Unicode.Numeric
import SearchPhrase.Text.Basic
import SearchPhrase.Unicode.Word

/-!
# Digits and white space as parts of words

Digits belong to words and white space does not.
-/

namespace SearchPhrase
namespace Unicode

/-- The members of a set of code points, one after another. -/
def InversionList.members : InversionList → List Nat
  | start :: stop :: rest => List.range' start (stop - start) ++ InversionList.members rest
  | _ => []

theorem InversionList.mem_members_of_contains
    {list : InversionList}
    {code : Nat}
    (contains : list.contains code = true) :
    code ∈ list.members := by
  fun_induction InversionList.members list with
  | case1 start stop rest ih =>
      rw [InversionList.contains] at contains
      rw [List.mem_append, List.mem_range'_1]
      split at contains
      · simp at contains
      · split at contains
        · exact .inl (by omega)
        · exact .inr (ih contains)
  | case2 list notPair =>
      unfold InversionList.contains at contains
      split at contains
      · exact absurd rfl (notPair _ _ _)
      · simp at contains

theorem isWord_of_isWordDigit {c : Char} (digit : isWordDigit c = true) : isWord c = true := by
  rw [isWordDigit, Bool.and_eq_true] at digit
  simp [isWord, digit.1, digit.2]

theorem isWord_of_isWhiteSpace {c : Char} (space : isWhiteSpace c = true) : isWord c = false := by
  have each : (whiteSpace.members.all fun code => !isWord (Char.ofNat code)) = true := by
    decide
  have member := InversionList.mem_members_of_contains space
  have apart := List.all_eq_true.1 each c.toNat member
  simpa using apart

theorem isAlphanumeric_of_isWhiteSpace {c : Char} (space : isWhiteSpace c = true) :
    isAlphanumeric c = false := by
  have each : (whiteSpace.members.all fun code => !isAlphanumeric (Char.ofNat code)) = true := by
    decide
  have member := InversionList.mem_members_of_contains space
  have apart := List.all_eq_true.1 each c.toNat member
  simpa using apart

theorem isWordDigit_of_isWhiteSpace {c : Char} (space : isWhiteSpace c = true) :
    isWordDigit c = false := by
  apply Bool.eq_false_iff.2
  intro digit
  have apart := isWord_of_isWhiteSpace space
  simp [isWord_of_isWordDigit digit] at apart

end Unicode
end SearchPhrase
