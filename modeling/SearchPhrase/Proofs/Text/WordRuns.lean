import SearchPhrase.Proofs.Text.Stretch

/-!
# Runs of word characters

The words that patterns know are the maximal runs of word characters in a text.  A run is listed
where it begins, so that a text that is cut where no run goes on has the runs of its parts.  White
space can be put together without changing any run.
-/

namespace SearchPhrase

open Cursor Unicode

/-- A maximal run of word characters. -/
structure WordRun where
  /-- The characters of the run. -/
  text : Text
  /-- Whether the run comes right after a number that ends in a comma. -/
  followsNumber : Bool
deriving DecidableEq

namespace Text

/-- Whether a text, given back to front, ends in a digit with nothing but commas after it. -/
def endsInNumber (before : Text) : Bool :=
  (before.dropWhile (· == ',')).head?.any isWordDigit

/-- The runs that begin in a text, given the text before it back to front. -/
def wordRunsAfter (before : Text) : Text → List WordRun
  | [] => []
  | c :: rest =>
      if isWord c && !startsWithWord before then
        ⟨(c :: rest).takeWhile isWord, endsInNumber before⟩ :: wordRunsAfter (c :: before) rest
      else wordRunsAfter (c :: before) rest

/-- The runs of word characters of a text. -/
def wordRuns (text : Text) : List WordRun :=
  wordRunsAfter [] text

section Equations

variable {c : Char} {before : Text}

@[simp] theorem wordRunsAfter_nil (before : Text) : wordRunsAfter before [] = [] := rfl

theorem wordRunsAfter_cons_of_begins
    (word : isWord c = true)
    (fresh : startsWithWord before = false)
    (rest : Text) :
    wordRunsAfter before (c :: rest) =
      ⟨(c :: rest).takeWhile isWord, endsInNumber before⟩ :: wordRunsAfter (c :: before) rest := by
  rw [wordRunsAfter, word, fresh]
  rfl

/-- No run begins at a character that belongs to no word. -/
theorem wordRunsAfter_cons_of_not_isWord (notWord : isWord c = false) (rest : Text) :
    wordRunsAfter before (c :: rest) = wordRunsAfter (c :: before) rest := by
  rw [wordRunsAfter, notWord]
  rfl

/-- No run begins within another one. -/
theorem wordRunsAfter_cons_of_continues (goesOn : startsWithWord before = true) (rest : Text) :
    wordRunsAfter before (c :: rest) = wordRunsAfter (c :: before) rest := by
  rw [wordRunsAfter, goesOn, Bool.not_true, Bool.and_false]
  rfl

end Equations

/-- Characters of a word that follow another one begin no run. -/
theorem wordRunsAfter_append_of_continues
    {before word : Text}
    (goesOn : startsWithWord before = true)
    (solid : ∀ c ∈ word, isWord c = true)
    (rest : Text) :
    wordRunsAfter before (word ++ rest) = wordRunsAfter (word.reverse ++ before) rest := by
  induction word generalizing before with
  | nil => rfl
  | cons c word ih =>
      have inWord : startsWithWord (c :: before) = true := solid c (by simp)
      have others := ih inWord fun d member => solid d (List.mem_cons_of_mem _ member)
      rw [List.cons_append, wordRunsAfter_cons_of_continues goesOn, others, List.reverse_cons,
        List.append_assoc, List.singleton_append]

/-- Whatever comes before a text, the runs that begin in it are some of its own. -/
theorem text_mem_map_wordRuns
    {run : WordRun}
    {before text : Text}
    (begins : run ∈ wordRunsAfter before text) :
    run.text ∈ (wordRuns text).map WordRun.text := by
  -- The induction carries along the part of the text that it has come past.
  suffices withPast : ∀ recent : Text, run ∈ wordRunsAfter (recent ++ before) text →
      run.text ∈ (wordRunsAfter recent text).map WordRun.text from
    withPast [] begins
  clear begins
  induction text with
  | nil => exact fun _ member => absurd member List.not_mem_nil
  | cons c rest ih =>
      intro recent member
      have others := ih (c :: recent)
      rw [wordRunsAfter] at member ⊢
      split at member
      · next begins =>
          have fresh : isWord c && !startsWithWord recent := by
            cases recent with
            | nil => simpa [startsWithWord] using (Bool.and_eq_true_iff.1 begins).1
            | cons d recent => exact begins
          rw [if_pos fresh, List.map_cons]
          rcases List.mem_cons.1 member with rfl | member
          · exact List.mem_cons_self
          · exact List.mem_cons_of_mem _ (others member)
      · split
        · rw [List.map_cons]
          exact List.mem_cons_of_mem _ (others member)
        · exact others member

/-- No word goes on from a text, given back to front, into the text after it. -/
def Apart (before after : Text) : Prop :=
  startsWithWord before = false ∨ startsWithWord after = false

theorem apart_of_atBoundary
    {before after : Text}
    (edge : atBoundary ⟨before, after⟩ = true) :
    Apart before after := by
  rw [atBoundary, bne_iff_ne] at edge
  unfold Apart
  cases opens : startsWithWord before with
  | false => exact .inl rfl
  | true => exact .inr (by simpa [opens] using edge)

theorem takeWhile_isWord_of_startsWithWord {text : Text} (ended : startsWithWord text = false) :
    text.takeWhile isWord = [] := by
  cases text with
  | nil => rfl
  | cons c rest =>
      have notWord : isWord c = false := ended
      rw [List.takeWhile_cons, notWord]
      rfl

/-- The word that a text begins with ends where the text is cut between two runs, if not before. -/
theorem takeWhile_append_of_apart
    {first second : Text}
    (nonempty : first ≠ [])
    (apart : Apart first.reverse second) :
    (first ++ second).takeWhile isWord = first.takeWhile isWord := by
  rw [List.takeWhile_append]
  split
  · next whole =>
      have all : first.takeWhile isWord = first :=
        (List.takeWhile_prefix isWord).eq_of_length whole
      obtain ⟨front, c, rfl⟩ := (List.eq_nil_or_concat first).resolve_left nonempty
      have solid := List.all_takeWhile (p := isWord) (l := front.concat c)
      rw [all] at solid
      have last : isWord c = true := List.all_eq_true.1 solid c (by simp)
      have ended : startsWithWord second = false :=
        apart.resolve_left (by simp [startsWithWord, last])
      rw [takeWhile_isWord_of_startsWithWord ended, List.append_nil, all]
  · rfl

theorem wordRunsAfter_append
    {before first second : Text}
    (apart : Apart (first.reverse ++ before) second) :
    wordRunsAfter before (first ++ second) =
      wordRunsAfter before first ++ wordRunsAfter (first.reverse ++ before) second := by
  induction first generalizing before with
  | nil => rfl
  | cons c rest ih =>
      have place : (c :: rest).reverse ++ before = rest.reverse ++ c :: before := by simp
      rw [place] at apart ⊢
      have others := ih apart
      have nonempty := List.cons_ne_nil c rest
      have cut : Apart (c :: rest).reverse second := by
        rw [← place] at apart
        unfold Apart at apart ⊢
        rwa [startsWithWord_append (by simp)] at apart
      have word : (c :: (rest ++ second)).takeWhile isWord = (c :: rest).takeWhile isWord :=
        takeWhile_append_of_apart nonempty cut
      rw [List.cons_append, wordRunsAfter, wordRunsAfter, others, word]
      split <;> rfl

/-- What comes before a blank has no part in whether a text ends in a number. -/
theorem endsInNumber_append_space
    {c : Char}
    (space : isWhiteSpace c = true)
    (recent before : Text) :
    endsInNumber (recent ++ c :: before) = endsInNumber recent := by
  have notComma : (c == ',') = false := by
    apply Bool.eq_false_iff.2
    intro comma
    rw [beq_iff_eq.1 comma] at space
    exact absurd space (by decide)
  unfold endsInNumber
  induction recent with
  | nil => simp [notComma, isWordDigit_of_isWhiteSpace space]
  | cons d recent ih =>
      rw [List.cons_append, List.dropWhile_cons, List.dropWhile_cons]
      split
      · exact ih
      · rfl

/-- The runs after white space do not depend on what comes before it. -/
theorem wordRunsAfter_space
    {c : Char}
    (space : isWhiteSpace c = true)
    (recent before text : Text) :
    wordRunsAfter (recent ++ c :: before) text = wordRunsAfter recent text := by
  induction text generalizing recent with
  | nil => rfl
  | cons d rest ih =>
      have fresh : startsWithWord (recent ++ c :: before) = startsWithWord recent := by
        cases recent with
        | nil => exact isWord_of_isWhiteSpace space
        | cons e recent => rfl
      rw [wordRunsAfter, wordRunsAfter, fresh, endsInNumber_append_space space, ← List.cons_append,
        ih (d :: recent)]

theorem wordRuns_cons_space
    {c : Char}
    (space : isWhiteSpace c = true)
    (rest : Text) :
    wordRuns (c :: rest) = wordRuns rest := by
  rw [wordRuns, wordRunsAfter_cons_of_not_isWord (isWord_of_isWhiteSpace space)]
  exact wordRunsAfter_space space [] [] rest

/-- A text in front of white space has its runs by itself. -/
theorem wordRuns_append_cons_space
    {c : Char}
    (space : isWhiteSpace c = true)
    (first rest : Text) :
    wordRuns (first ++ c :: rest) = wordRuns first ++ wordRuns rest := by
  have notWord := isWord_of_isWhiteSpace space
  have ended : startsWithWord (c :: rest) = false := notWord
  rw [wordRuns, wordRunsAfter_append (.inr ended), wordRunsAfter_cons_of_not_isWord notWord]
  exact congrArg _ (wordRunsAfter_space space [] _ rest)

theorem wordRuns_intercalate (parts : List Text) :
    wordRuns (List.intercalate [' '] parts) = parts.flatMap wordRuns := by
  induction parts with
  | nil => rfl
  | cons part parts ih =>
      cases parts with
      | nil => simp
      | cons next parts =>
          rw [List.intercalate_cons_cons, List.append_assoc, List.singleton_append,
            wordRuns_append_cons_space (by decide), ih, ← List.flatMap_cons]

/-- The runs of a text are those of its parts between white space. -/
theorem wordRuns_eq_flatMap_words (text : Text) :
    wordRuns text = (words text).flatMap wordRuns := by
  -- The induction carries along the part that the text goes on from.
  suffices withPart : ∀ part : Text, (∀ c ∈ part, isWhiteSpace c = false) →
      wordRuns (part ++ text) = (words (part ++ text)).flatMap wordRuns from
    withPart [] (by simp)
  induction text with
  | nil =>
      intro part solid
      cases part with
      | nil => rfl
      | cons c part =>
          rw [words_append (List.cons_ne_nil c part) solid rfl, words, List.flatMap_singleton,
            List.append_nil]
  | cons c rest ih =>
      intro part solid
      by_cases space : isWhiteSpace c = true
      · have others : wordRuns rest = (words rest).flatMap wordRuns := ih [] (by simp)
        cases part with
        | nil =>
            rw [List.nil_append, wordRuns_cons_space space, words_cons_of_isWhiteSpace space,
              others]
        | cons d part =>
            have apart : startsWord (c :: rest) = false := by simp [startsWord, space]
            rw [words_append (List.cons_ne_nil d part) solid apart,
              words_cons_of_isWhiteSpace space, wordRuns_append_cons_space space, others,
              List.flatMap_cons]
      · have longer : ∀ d ∈ part ++ [c], isWhiteSpace d = false := by
          intro d member
          rcases List.mem_append.1 member with member | member
          · exact solid d member
          · rw [List.mem_singleton.1 member]
            simpa using space
        have cut : part ++ c :: rest = part ++ [c] ++ rest := by simp
        rw [cut]
        exact ih (part ++ [c]) longer

/-- A text has the same runs with single blanks for its white space. -/
theorem wordRuns_collapse (text : Text) : wordRuns (collapse text) = wordRuns text := by
  rw [collapse, wordRuns_intercalate, ← wordRuns_eq_flatMap_words]

end Text
end SearchPhrase
