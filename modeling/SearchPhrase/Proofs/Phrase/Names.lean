import Mathlib.Tactic.SplitIfs
import SearchPhrase.Phrase.ModelName
import SearchPhrase.Proofs.Text.Standing
import SearchPhrase.Proofs.Text.Stretch

/-!
# Where the words of a model name stand

The words of a model name are stretches of the phrase.  They follow one another, with white space
and punctuation between them and nothing else.
-/

namespace SearchPhrase
namespace ModelName

open Text Unicode

/-- Whether a character may stand between two words of a model name. -/
def isFiller (c : Char) : Bool :=
  isWhiteSpace c || isPunctuation c

theorem isFiller_iff {c : Char} :
    isFiller c = true ↔ isWhiteSpace c = true ∨ isPunctuation c = true :=
  Iff.of_eq (Bool.or_eq_true _ _)

/-- A word is what is left of it and punctuation. -/
theorem exists_stripPunctuation (word : Text) :
    ∃ tail, word = stripPunctuation word ++ tail ∧ (∀ c ∈ tail, isPunctuation c = true) ∧
      ∀ c ∈ (stripPunctuation word).getLast?, isPunctuation c = false := by
  refine ⟨(word.reverse.takeWhile isPunctuation).reverse, ?_, ?_, ?_⟩
  · rw [stripPunctuation, ← List.reverse_append, List.takeWhile_append_dropWhile,
      List.reverse_reverse]
  · intro c member
    exact List.all_eq_true.1 List.all_takeWhile c (List.mem_reverse.1 member)
  · intro c last
    rw [stripPunctuation, List.getLast?_reverse] at last
    have ended := List.head?_dropWhile_not isPunctuation word.reverse
    rw [Option.mem_def.1 last] at ended
    simpa using ended

/-- A stretch that can be a word of a model name. -/
structure IsName {text : Text} (name : Stretch text) : Prop where
  /-- It is not empty. -/
  nonempty : name.body ≠ []
  /-- There is no white space in it. -/
  solid : ∀ c ∈ name.body, isWhiteSpace c = false
  /-- It does not end in punctuation. -/
  ends : ∀ c ∈ name.body.getLast?, isPunctuation c = false
  /-- White space or punctuation follows, or nothing. -/
  closes : ∀ c ∈ name.after.head?, isFiller c = true
  /-- It does not end the name of a model. -/
  kept : endsModel name.body = false

/-- After a beginning of a text, the words of a model name stand one after another. -/
inductive Stand {text : Text} : Text → List (Stretch text) → Prop where
  /-- There may be none. -/
  | nil {before : Text} : Stand before []
  /-- The first one stands after white space and punctuation, and the others after it. -/
  | cons {before gap : Text} {name : Stretch text} {names : List (Stretch text)}
      (place : name.before = before ++ gap) (filler : ∀ c ∈ gap, isFiller c = true)
      (isName : IsName name) (others : Stand (name.before ++ name.body) names) :
      Stand before (name :: names)

/-- White space and punctuation may come first. -/
theorem Stand.of_append
    {text before gap : Text}
    {names : List (Stretch text)}
    (stand : Stand (before ++ gap) names)
    (filler : ∀ c ∈ gap, isFiller c = true) :
    Stand before names := by
  cases stand with
  | nil => exact .nil
  | cons place filler' isName others =>
      refine .cons (by rw [place, List.append_assoc]) ?_ isName others
      intro c member
      exact (List.mem_append.1 member).elim (filler c) (filler' c)

/-- What is left of a word without the punctuation at its end can be a word of a model name. -/
theorem isName_of_word
    {text word tail rest : Text}
    {name : Stretch text}
    (split : word = name.body ++ tail)
    (after : name.after = tail ++ rest)
    (solid : ∀ c ∈ word, isWhiteSpace c = false)
    (punctuation : ∀ c ∈ tail, isPunctuation c = true)
    (last : ∀ c ∈ name.body.getLast?, isPunctuation c = false)
    (ended : startsWord rest = false)
    (nonempty : name.body.isEmpty = false)
    (kept : endsModel name.body = false) :
    IsName name := by
  refine ⟨List.isEmpty_eq_false_iff.1 nonempty, ?_, last, ?_, kept⟩
  · intro c member
    exact solid c (by rw [split]; exact List.mem_append_left _ member)
  · intro c first
    rw [after] at first
    cases tail with
    | cons d tail =>
        obtain rfl : d = c := Option.some.inj first
        exact isFiller_iff.2 (.inr (punctuation d List.mem_cons_self))
    | nil =>
        cases rest with
        | nil => cases first
        | cons d rest =>
            obtain rfl : d = c := Option.some.inj first
            exact isFiller_iff.2 (.inl (by simpa [startsWord] using ended))

/-- The words that are taken from the rest of a text stand in it. -/
theorem exists_stand
    {text : Text}
    (rest : Text) :
    ∀ (room : Nat) (before : Text), before ++ rest = text →
      ∃ names : List (Stretch text), Stand before names ∧
        names.map Stretch.body = takeWords room (words rest) := by
  induction rest using words_induction with
  | nil =>
      intro room before _
      exact ⟨[], .nil, by cases room <;> rfl⟩
  | space c rest space ih =>
      intro room before whole
      obtain ⟨names, stand, same⟩ := ih room (before ++ [c]) (by simpa using whole)
      refine ⟨names, stand.of_append ?_, by rw [words_cons_of_isWhiteSpace space, same]⟩
      intro d member
      rw [List.mem_singleton.1 member]
      exact isFiller_iff.2 (.inl space)
  | word word rest there solid ended ih =>
      intro room before whole
      rw [words_append there solid ended]
      cases room with
      | zero => exact ⟨[], .nil, rfl⟩
      | succ room =>
          obtain ⟨tail, split, punctuation, last⟩ := exists_stripPunctuation word
          have filler : ∀ c ∈ tail, isFiller c = true := fun c member =>
            isFiller_iff.2 (.inr (punctuation c member))
          simp only [takeWords]
          split_ifs with priced empty stops
          · exact ⟨[], .nil, rfl⟩
          · -- The word is nothing but punctuation.
            obtain ⟨names, stand, same⟩ := ih (room + 1) (before ++ word) (by simpa using whole)
            rw [List.isEmpty_iff.1 empty, List.nil_append] at split
            exact ⟨names, stand.of_append (split ▸ filler), same⟩
          · exact ⟨[], .nil, rfl⟩
          · obtain ⟨names, stand, same⟩ := ih room (before ++ word) (by simpa using whole)
            have further : before ++ word = before ++ stripPunctuation word ++ tail := by
              rw [List.append_assoc, ← split]
            rw [further] at stand
            let name : Stretch text :=
              ⟨before, stripPunctuation word, tail ++ rest, by
                rw [← List.append_assoc (stripPunctuation word), ← split, whole]⟩
            have isName : IsName name := isName_of_word split rfl solid punctuation last ended
              (Bool.eq_false_iff.2 empty) (Bool.eq_false_iff.2 stops)
            exact ⟨name :: names,
              .cons (List.append_nil before).symm (by simp) isName (stand.of_append filler),
              congrArg (stripPunctuation word :: ·) same⟩

end ModelName
end SearchPhrase
