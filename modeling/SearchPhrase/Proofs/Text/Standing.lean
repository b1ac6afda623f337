import SearchPhrase.Proofs.Text.Trimmed
import SearchPhrase.Proofs.Text.WordRuns

/-!
# Texts that stand by themselves

A text stands by itself within another one where no word goes on into it or out of it.  A text
without white space that stands by itself does so within one of the words between white space, and
stays there when the white space is put together.
-/

namespace SearchPhrase
namespace Text

open Cursor Unicode

/-- A text that begins with a word is that word and a rest that does not go on with it. -/
theorem exists_word_of_startsWord {text : Text} (starts : startsWord text = true) :
    ∃ word rest, text = word ++ rest ∧ word ≠ [] ∧ (∀ c ∈ word, isWhiteSpace c = false) ∧
      startsWord rest = false := by
  refine ⟨text.takeWhile (!isWhiteSpace ·), text.dropWhile (!isWhiteSpace ·),
    List.takeWhile_append_dropWhile.symm, ?_, ?_, ?_⟩
  · cases text with
    | nil => simp [startsWord] at starts
    | cons c rest =>
        have first : (!isWhiteSpace c) = true := starts
        rw [List.takeWhile_cons, if_pos first]
        exact List.cons_ne_nil _ _
  · intro c member
    simpa using List.all_eq_true.1 List.all_takeWhile c member
  · have ended := List.head?_dropWhile_not (!isWhiteSpace ·) text
    cases left : text.dropWhile (!isWhiteSpace ·) with
    | nil => rfl
    | cons c rest => simpa [left, startsWord] using ended

/-- What holds of the empty text, and of a text with white space or a word more in front, holds of
every text. -/
theorem words_induction
    {motive : Text → Prop}
    (nil : motive [])
    (space : ∀ c rest, isWhiteSpace c = true → motive rest → motive (c :: rest))
    (word : ∀ word rest, word ≠ [] → (∀ c ∈ word, isWhiteSpace c = false) →
      startsWord rest = false → motive rest → motive (word ++ rest))
    (text : Text) :
    motive text := by
  match text with
  | [] => exact nil
  | c :: rest =>
      by_cases blank : isWhiteSpace c = true
      · exact space c rest blank (words_induction nil space word rest)
      · have starts : startsWord (c :: rest) = true := by simpa [startsWord] using blank
        obtain ⟨first, others, whole, nonempty, solid, ended⟩ := exists_word_of_startsWord starts
        have shorter : others.length < (c :: rest).length := by
          have positive := List.length_pos_iff.2 nonempty
          rw [whole, List.length_append]
          omega
        rw [whole]
        exact word first others nonempty solid ended (words_induction nil space word others)
  termination_by text.length
  decreasing_by
    · exact Nat.lt_succ_self _
    · exact shorter

/-- A text stands by itself somewhere within another one. -/
def StandsIn (middle text : Text) : Prop :=
  ∃ before after, before.reverse ++ (middle ++ after) = text ∧
    startsWithWord before = false ∧ startsWithWord after = false

section Standing

variable {middle : Text} (nonempty : middle ≠ []) (solid : ∀ c ∈ middle, isWhiteSpace c = false)

include nonempty

theorem not_standsIn_nil : ¬StandsIn middle [] := by
  rintro ⟨before, after, whole, -, -⟩
  have parts := (List.append_eq_nil_iff.1 whole).2
  exact nonempty (List.append_eq_nil_iff.1 parts).1

include solid

/-- A text without white space stands by itself where there is white space exactly when it does so
on one side of it. -/
theorem standsIn_append_cons_space
    {c : Char}
    (space : isWhiteSpace c = true)
    (first rest : Text) :
    StandsIn middle (first ++ c :: rest) ↔ StandsIn middle first ∨ StandsIn middle rest := by
  have notWord : isWord c = false := isWord_of_isWhiteSpace space
  have absent : c ∉ middle := fun member => by simp [solid c member] at space
  constructor
  · rintro ⟨before, after, whole, opens, closes⟩
    rcases List.append_eq_append_iff.1 whole with ⟨part, split, later⟩ | ⟨part, split, later⟩
    · -- The text begins before the white space and so ends there as well.
      obtain ⟨past, rfl, rfl⟩ := exists_of_append_cons absent later
      refine .inl ⟨before, past, split.symm, opens, ?_⟩
      cases past with
      | nil => rfl
      | cons d past => exact closes
    · cases part with
      | nil =>
          obtain ⟨d, others, rfl⟩ := List.exists_cons_of_ne_nil nonempty
          obtain ⟨rfl, -⟩ := List.cons.inj later
          exact absurd List.mem_cons_self absent
      | cons d part =>
          obtain ⟨rfl, rfl⟩ := List.cons.inj later
          refine .inr ⟨part.reverse, after, by simp, ?_, closes⟩
          have back : before = part.reverse ++ c :: first.reverse := by
            rw [← List.reverse_reverse before, split]
            simp
          rw [back] at opens
          cases reversed : part.reverse with
          | nil => rfl
          | cons e others => rwa [reversed] at opens
  · rintro (⟨before, after, rfl, opens, closes⟩ | ⟨before, after, rfl, opens, closes⟩)
    · refine ⟨before, after ++ c :: rest, by simp, opens, ?_⟩
      cases after with
      | nil => exact notWord
      | cons d after => exact closes
    · refine ⟨before ++ c :: first.reverse, after, by simp, ?_, closes⟩
      cases before with
      | nil => exact notWord
      | cons d before => exact opens

/-- A text without white space stands by itself exactly where it does so within a word. -/
theorem standsIn_iff_words (text : Text) :
    StandsIn middle text ↔ ∃ word ∈ words text, StandsIn middle word := by
  induction text using words_induction with
  | nil => simpa [words] using not_standsIn_nil nonempty
  | space c rest space ih =>
      have around := standsIn_append_cons_space nonempty solid space [] rest
      rw [List.nil_append] at around
      rw [around, words_cons_of_isWhiteSpace space, ih]
      exact or_iff_right (not_standsIn_nil nonempty)
  | word word rest there letters ended ih =>
      have around :
          StandsIn middle (word ++ rest) ↔ StandsIn middle word ∨ StandsIn middle rest := by
        cases rest with
        | nil =>
            rw [List.append_nil]
            exact (or_iff_left (not_standsIn_nil nonempty)).symm
        | cons c rest =>
            have space : isWhiteSpace c = true := by simpa [startsWord] using ended
            have others := standsIn_append_cons_space nonempty solid space [] rest
            rw [List.nil_append] at others
            rw [standsIn_append_cons_space nonempty solid space, others]
            exact or_congr_right (or_iff_right (not_standsIn_nil nonempty)).symm
      rw [around, words_append there letters ended, ih]
      simp only [List.mem_cons, or_and_right, exists_or, exists_eq_left]

/-- Putting white space together neither adds nor loses places where a text without white space
stands by itself. -/
theorem standsIn_collapse (text : Text) :
    StandsIn middle (collapse text) ↔ StandsIn middle text := by
  rw [standsIn_iff_words nonempty solid, standsIn_iff_words nonempty solid, words_collapse]

end Standing

end Text
end SearchPhrase
