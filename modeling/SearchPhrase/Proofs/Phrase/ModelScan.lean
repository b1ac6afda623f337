import Mathlib.Data.List.TakeWhile
import SearchPhrase.Proofs.Interpretation.ModelWords

/-!
# Which words make up a model name

The scan behind a make goes from word to word, passes over what is nothing but punctuation, and
stops in three ways: at a word that stops it, with the name complete, or at the end of the text.
What it finds are the first words before the first one that stops it.  What follows once the scan
has stopped has no part in the name.
-/

namespace SearchPhrase

open Interpretation Text Unicode

theorem Text.startsWord_of_append
    {first second : Text}
    (ended : startsWord (first ++ second) = false) :
    startsWord first = false := by
  cases first with
  | nil => rfl
  | cons c rest => exact ended

/-- The words of a text that is cut between two words are those of its parts. -/
theorem Text.words_append_of_cut
    {first second : Text}
    (cut : startsWord first.reverse = false ∨ startsWord second = false) :
    words (first ++ second) = words first ++ words second := by
  induction first using words_induction with
  | nil => rfl
  | space c rest space ih =>
      rw [List.reverse_cons] at cut
      rw [List.cons_append, words_cons_of_isWhiteSpace space, words_cons_of_isWhiteSpace space,
        ih (cut.imp_left startsWord_of_append)]
  | word word rest there solid ended ih =>
      rw [List.reverse_append] at cut
      have others := ih (cut.imp_left startsWord_of_append)
      have apart : startsWord (rest ++ second) = false := by
        cases rest with
        | nil =>
            refine cut.resolve_left ?_
            obtain ⟨front, c, rfl⟩ := (List.eq_nil_or_concat word).resolve_left there
            simp [startsWord, solid c (by simp)]
        | cons c rest => exact ended
      rw [List.append_assoc, words_append there solid apart, words_append there solid ended, others,
        List.cons_append]

namespace ModelName

/-- Whether a word stops the scan for a model: an amount of money, or a word that ends the name
of a model once the punctuation at its end is taken off. -/
def isStopper (raw : Text) : Bool :=
  raw.head? == some '$' || endsModel (stripPunctuation raw)

/-- The words that a name may be made of: those before the first stopper, without punctuation at
their ends, as far as anything is left of them. -/
def nameWords (raws : List Text) : List Text :=
  ((raws.takeWhile fun raw => !isStopper raw).map stripPunctuation).filter fun word =>
    !word.isEmpty

section Scan

variable {raw : Text} {raws others : List Text}

theorem nameWords_cons_of_isStopper (stops : isStopper raw = true) :
    nameWords (raw :: raws) = [] := by
  simp [nameWords, stops]

theorem nameWords_cons_of_empty
    (goesOn : isStopper raw = false)
    (empty : stripPunctuation raw = []) :
    nameWords (raw :: raws) = nameWords raws := by
  simp [nameWords, goesOn, empty]

theorem nameWords_cons_of_ne_nil
    (goesOn : isStopper raw = false)
    (there : stripPunctuation raw ≠ []) :
    nameWords (raw :: raws) = stripPunctuation raw :: nameWords raws := by
  simp [nameWords, goesOn, there]

/-- The words that are taken are the first of those before a stopper. -/
theorem takeWords_eq (room : Nat) (raws : List Text) :
    takeWords room raws = (nameWords raws).take room := by
  induction raws generalizing room with
  | nil => cases room <;> rfl
  | cons raw raws ih =>
      cases room with
      | zero => rfl
      | succ room =>
          simp only [takeWords]
          split_ifs with priced empty stops
          · have stopper : isStopper raw = true := by simp [isStopper, priced]
            rw [nameWords_cons_of_isStopper stopper, List.take_nil]
          · have nothing := List.isEmpty_iff.1 empty
            have goesOn : isStopper raw = false := by
              have unended : endsModel [] = false := by decide
              simp [isStopper, priced, nothing, unended]
            rw [ih, nameWords_cons_of_empty goesOn nothing]
          · have stopper : isStopper raw = true := by simp [isStopper, stops]
            rw [nameWords_cons_of_isStopper stopper, List.take_nil]
          · have goesOn : isStopper raw = false := by simp [isStopper, priced, stops]
            rw [ih, nameWords_cons_of_ne_nil goesOn (by simpa using empty), List.take_succ_cons]

/-- What can be a word of a model name. -/
structure IsNameWord (word : Text) : Prop where
  /-- It is there. -/
  nonempty : word ≠ []
  /-- It holds no white space. -/
  solid : ∀ c ∈ word, isWhiteSpace c = false
  /-- It is no amount of money. -/
  unpriced : word.head? ≠ some '$'
  /-- It is none of the words that end a name. -/
  unstopped : ∀ stop ∈ stopWords, word ≠ stop.toList
  /-- It is no number of four digits. -/
  undated : ¬(word.length = 4 ∧ ∀ c ∈ word, c.isDigit = true)
  /-- It does not end in punctuation. -/
  ends : ∀ c ∈ word.getLast?, isPunctuation c = false

theorem isNameWord_of_mem_nameWords
    {word : Text}
    (solid : ∀ raw ∈ raws, ∀ c ∈ raw, isWhiteSpace c = false)
    (member : word ∈ nameWords raws) :
    IsNameWord word := by
  obtain ⟨listed, visible⟩ := List.mem_filter.1 member
  obtain ⟨raw, taken, rfl⟩ := List.mem_map.1 listed
  have nonempty : stripPunctuation raw ≠ [] := by simpa using visible
  obtain ⟨tail, split, -, ends⟩ := exists_stripPunctuation raw
  have goesOn : isStopper raw = false := by
    simpa using List.all_eq_true.1 List.all_takeWhile raw taken
  simp only [isStopper, endsModel, Bool.or_eq_false_iff, beq_eq_false_iff_ne, List.any_eq_false,
    beq_iff_eq] at goesOn
  obtain ⟨unpriced, unstopped, undated⟩ := goesOn
  refine ⟨nonempty, ?_, ?_, ?_, ?_, ends⟩
  · intro c inWord
    apply solid raw ((List.takeWhile_prefix _).subset taken)
    rw [split]
    exact List.mem_append_left tail inWord
  · rwa [split, List.head?_append_of_ne_nil _ nonempty] at unpriced
  · intro stop known same
    exact unstopped stop known same.symm
  · rintro ⟨four, digits⟩
    simp [isFourDigits, four, List.all_eq_true.2 digits] at undated

/-- Whether the scan has stopped by the end of some words: one of them stops it, or the name is
complete. -/
def IsSettled (raws : List Text) : Prop :=
  (∃ raw ∈ raws, isStopper raw = true) ∨ maxWords ≤ (nameWords raws).length

theorem nameWords_append_of_stopper (stopped : ∃ raw ∈ raws, isStopper raw = true) :
    nameWords (raws ++ others) = nameWords raws := by
  induction raws with
  | nil => simp at stopped
  | cons raw raws ih =>
      by_cases stops : isStopper raw = true
      · rw [List.cons_append, nameWords_cons_of_isStopper stops, nameWords_cons_of_isStopper stops]
      · have goesOn := Bool.eq_false_iff.2 stops
        have later : ∃ other ∈ raws, isStopper other = true := by simpa [stops] using stopped
        rw [List.cons_append]
        by_cases empty : stripPunctuation raw = []
        · rw [nameWords_cons_of_empty goesOn empty, nameWords_cons_of_empty goesOn empty, ih later]
        · rw [nameWords_cons_of_ne_nil goesOn empty, nameWords_cons_of_ne_nil goesOn empty,
            ih later]

theorem nameWords_append (running : ∀ raw ∈ raws, isStopper raw = false) :
    nameWords (raws ++ others) = nameWords raws ++ nameWords others := by
  have all : ∀ raw ∈ raws, (!isStopper raw) = true := fun raw member => by simp [running raw member]
  have whole : (raws.takeWhile fun raw => !isStopper raw) = raws := List.takeWhile_eq_self_iff.2 all
  rw [nameWords, List.takeWhile_append_of_pos all, List.map_append, List.filter_append, nameWords,
    nameWords, whole]

/-- Once the scan has stopped, the words that follow are not looked at. -/
theorem take_nameWords_append (settled : IsSettled raws) :
    (nameWords (raws ++ others)).take maxWords = (nameWords raws).take maxWords := by
  by_cases stopped : ∃ raw ∈ raws, isStopper raw = true
  · rw [nameWords_append_of_stopper stopped]
  · have running : ∀ raw ∈ raws, isStopper raw = false := by simpa using stopped
    rw [nameWords_append running, List.take_append_of_le_length (settled.resolve_left stopped)]

end Scan

theorem read_append
    {mention : Mention}
    {before : Text}
    (stop : mention.span.stop = byteLength before)
    (after : Text) :
    read (before ++ after) (some mention) = joined ((nameWords (words after)).take maxWords) := by
  rw [read, Option.bind_eq_bind, Option.bind_some, stop, dropBytes_byteLength_append,
    atStart_eq_joined, takeWords_eq]

/-- The words of a name that is read are words that it was put together from. -/
theorem words_of_joined
    {parts : List Text}
    {model : String}
    (isNameWord : ∀ part ∈ parts, IsNameWord part)
    (found : joined parts = some model) :
    words model.toList = parts := by
  cases parts with
  | nil => cases found
  | cons part parts =>
      cases found
      rw [String.toList_ofList]
      exact words_intercalate (fun part member => (isNameWord part member).nonempty)
        fun part member => (isNameWord part member).solid

/-- The name of a model is made up of the first words behind the make that come before a stopper.
None of its words is one that stops the scan, and the text behind the words with which the scan has
stopped has no part in it. -/
theorem read_scanned
    (mention : Mention)
    (before after : Text)
    (stop : mention.span.stop = byteLength before) :
    read (before ++ after) (some mention) = joined ((nameWords (words after)).take maxWords) ∧
      (∀ model, read (before ++ after) (some mention) = some model →
        ∀ word ∈ words model.toList, IsNameWord word) ∧
      ∀ lead rest, after = lead ++ rest →
        (startsWord lead.reverse = false ∨ startsWord rest = false) → IsSettled (words lead) →
        read (before ++ after) (some mention) = read (before ++ lead) (some mention) := by
  have isNameWord : ∀ word ∈ (nameWords (words after)).take maxWords, IsNameWord word := by
    intro word member
    refine isNameWord_of_mem_nameWords ?_ ((List.take_subset _ _) member)
    exact fun raw known => (of_mem_words known).2.1
  refine ⟨read_append stop after, ?_, ?_⟩
  · intro model found word member
    rw [read_append stop] at found
    rw [words_of_joined isNameWord found] at member
    exact isNameWord word member
  · rintro lead rest rfl cut settled
    rw [read_append stop, read_append stop, words_append_of_cut cut,
      take_nameWords_append settled]

/-- Behind a make, a hyphen is passed over, punctuation is taken off the words, and a year stops the
scan for good. -/
theorem read_scanned_cruiser :
    (⟨"Toyota", ⟨2, 8⟩⟩ : Mention).span.stop = byteLength "a toyota".toList ∧
      read "a toyota - land, 2015 cruiser".toList (some ⟨"Toyota", ⟨2, 8⟩⟩) = some "land" ∧
      IsNameWord "land".toList ∧
      read ("a toyota".toList ++ " - land, 2015 cruiser".toList) (some ⟨"Toyota", ⟨2, 8⟩⟩) =
        read ("a toyota".toList ++ " - land, 2015".toList) (some ⟨"Toyota", ⟨2, 8⟩⟩) := by
  have scanned := read_scanned ⟨"Toyota", ⟨2, 8⟩⟩ "a toyota".toList " - land, 2015 cruiser".toList
    (by decide)
  have found : read "a toyota - land, 2015 cruiser".toList (some ⟨"Toyota", ⟨2, 8⟩⟩) =
      some "land" := scanned.1.trans (by decide)
  refine ⟨by decide, found, scanned.2.1 "land" found _ (by decide), ?_⟩
  exact scanned.2.2 " - land, 2015".toList " cruiser".toList (by decide) (by decide)
    (.inl ⟨"2015".toList, by decide, by decide⟩)

end ModelName
end SearchPhrase
