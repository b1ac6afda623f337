import SearchPhrase.Proofs.Pattern.Folded
import SearchPhrase.Proofs.Pattern.Occurrences
import SearchPhrase.Proofs.Pattern.Pieces
import SearchPhrase.Proofs.Phrase.Removals
import SearchPhrase.Proofs.Text.Standing

/-!
# Phrases that the keywords are cleared of

Each list of phrases is taken out of a text from left to right, one list after another.  Every
occurrence begins and ends between two words, so that taking it out never puts together a word or
brings one to stand by itself that did not before.  What stands by itself after a list has been
taken out was passed over by the search, which passes over no phrase of that list.
-/

namespace SearchPhrase

open Cursor Text Unicode

namespace Text

/-- A text without white space that begins and ends with a word. -/
structure IsTerm (text : Text) : Prop where
  /-- It begins with a word. -/
  starts : startsWithWord text = true
  /-- It ends with a word. -/
  ends : startsWithWord text.reverse = true
  /-- It holds no white space. -/
  solid : ∀ c ∈ text, isWhiteSpace c = false

theorem IsTerm.ne_nil {text : Text} (term : IsTerm text) : text ≠ [] := by
  rintro rfl
  exact absurd term.starts (by decide)

/-- Folding keeps white space and the edges of words where they are. -/
theorem IsTerm.of_folded {text : Text} (term : IsTerm (folded text)) : IsTerm text := by
  refine ⟨?_, ?_, ?_⟩
  · rw [← startsWithWord_folded]
    exact term.starts
  · rw [← startsWithWord_folded, folded_reverse]
    exact term.ends
  · intro c member
    rw [← isWhiteSpace_foldCase]
    exact term.solid _ (List.mem_map_of_mem member)

end Text

namespace Pattern

/-- Whether every text that a pattern takes begins and ends between two words. -/
def HasEdges (pattern : Pattern) : Prop :=
  ∀ {before text after : Text}, pattern.Takes before text after →
    Apart before (text ++ after) ∧ Apart (text.reverse ++ before) after

theorem hasEdges_bounded (body : Pattern) : HasEdges (bounded body) := by
  intro before text after takes
  obtain ⟨opens, -, closes⟩ := takes_bounded.1 takes
  exact ⟨apart_of_atBoundary opens, apart_of_atBoundary closes⟩

/-- What a piece leaves behind when occurrences are replaced by blanks. -/
def residue : Piece → Char
  | .plain c => c
  | .found _ => ' '

theorem replace_blank_eq_map (pattern : Pattern) (text : Text) :
    pattern.replace (fun _ => [' ']) text = (pattern.pieces text).map residue := by
  have each : ∀ piece, pieceText (fun _ => [' ']) piece = [residue piece] := by
    rintro (c | found) <;> rfl
  rw [replace, funext each, List.map_eq_flatMap]

/-- Pieces that leave no blank behind stay as they are. -/
theorem piecesText_eq_map_residue
    {pieces : List Piece}
    (kept : ' ' ∉ pieces.map residue) :
    piecesText pieces = pieces.map residue := by
  induction pieces with
  | nil => rfl
  | cons piece pieces ih =>
      rw [List.map_cons, List.mem_cons, not_or] at kept
      cases piece with
      | plain c => rw [piecesText_plain_cons, ih kept.2, List.map_cons, residue]
      | found occurrence => exact absurd rfl kept.1

variable {pattern : Pattern} {text middle : Text} {first rest : List Piece}

/-- A word that follows an occurrence does not go on from it. -/
theorem startsWithWord_reverse_piecesText
    (edges : HasEdges pattern)
    (cut : pattern.pieces text = first ++ rest)
    (starts : startsWithWord (piecesText rest) = true)
    (opens : startsWithWord (first.map residue).reverse = false) :
    startsWithWord (piecesText first).reverse = false := by
  rcases List.eq_nil_or_concat first with rfl | ⟨front, last, rfl⟩
  · rfl
  · rw [List.concat_eq_append, List.append_assoc] at cut
    cases last with
    | plain c => simpa [startsWithWord, residue] using opens
    | found occurrence =>
        have closes := (edges (takes_of_pieces_eq cut)).2
        simpa using closes.resolve_right (by simp [starts])

/-- A word that comes before an occurrence does not go on into it. -/
theorem startsWithWord_piecesText
    (edges : HasEdges pattern)
    (cut : pattern.pieces text = first ++ rest)
    (ends : startsWithWord (piecesText first).reverse = true)
    (closes : startsWithWord (rest.map residue) = false) :
    startsWithWord (piecesText rest) = false := by
  cases rest with
  | nil => rfl
  | cons next rest =>
      cases next with
      | plain c => exact closes
      | found occurrence =>
          have opens := (edges (takes_of_pieces_eq cut)).1
          exact opens.resolve_left (by simp [ends])

/-- What stands by itself once occurrences have been replaced by blanks stood by itself in the text,
at a place where the pattern has no occurrence. -/
theorem exists_passed_over
    (edges : HasEdges pattern)
    (term : IsTerm middle)
    (stands : StandsIn middle (pattern.replace (fun _ => [' ']) text)) :
    ∃ before after, before.reverse ++ (middle ++ after) = text ∧ startsWithWord before = false ∧
      startsWithWord after = false ∧ pattern.matchAt? ⟨before, middle ++ after⟩ = none := by
  obtain ⟨before, after, whole, opens, closes⟩ := stands
  rw [replace_blank_eq_map] at whole
  obtain ⟨first, others, cut, left, right⟩ := List.map_eq_append_iff.1 whole.symm
  obtain ⟨within, last, rfl, kept, right⟩ := List.map_eq_append_iff.1 right
  have noBlank : ' ' ∉ within.map residue := by
    rw [kept]
    exact fun member => absurd (term.solid _ member) (by decide)
  have same : piecesText within = middle := (piecesText_eq_map_residue noBlank).trans kept
  have text := @piecesText_pieces pattern text
  rw [cut, piecesText_append, piecesText_append, same] at text
  have starts : startsWithWord (piecesText (within ++ last)) = true := by
    rw [piecesText_append, same, startsWithWord_append term.ne_nil]
    exact term.starts
  have ends : startsWithWord (piecesText (first ++ within)).reverse = true := by
    rw [piecesText_append, same, List.reverse_append,
      startsWithWord_append (by simpa using term.ne_nil)]
    exact term.ends
  refine ⟨(piecesText first).reverse, piecesText last, ?_, ?_, ?_, ?_⟩
  · rw [List.reverse_reverse, text]
  · refine startsWithWord_reverse_piecesText edges cut starts ?_
    rwa [left, List.reverse_reverse]
  · refine startsWithWord_piecesText edges (cut.trans (List.append_assoc _ _ _).symm) ends ?_
    rwa [right]
  · obtain ⟨piece, others, rfl⟩ := List.exists_cons_of_ne_nil (l := within) (by
      rintro rfl
      exact term.ne_nil same.symm)
    have placed : pattern.matchAt?
        ⟨(piecesText first).reverse, piecesText ((piece :: others) ++ last)⟩ = occurrence? piece :=
      matchAt?_of_pieces_eq cut
    rw [piecesText_append, same] at placed
    cases piece with
    | plain c => exact placed
    | found occurrence => exact absurd (by simp [residue]) noBlank

end Pattern

namespace Keywords

open Pattern

variable {text middle : Text}

theorem standsIn_of_standsIn_blankOut
    {pattern : Pattern}
    (edges : HasEdges pattern)
    (term : IsTerm middle)
    (stands : StandsIn middle (blankOut text pattern)) :
    StandsIn middle text := by
  obtain ⟨before, after, whole, opens, closes, -⟩ := exists_passed_over edges term stands
  exact ⟨before, after, whole, opens, closes⟩

/-- What does not stand by itself in a text does not come to do so when patterns are blanked out one
after another. -/
theorem not_standsIn_foldl_blankOut
    {patterns : List Pattern}
    (edges : ∀ pattern ∈ patterns, HasEdges pattern)
    (term : IsTerm middle)
    (absent : ¬StandsIn middle text) :
    ¬StandsIn middle (patterns.foldl blankOut text) := by
  induction patterns generalizing text with
  | nil => exact absent
  | cons pattern patterns ih =>
      refine ih (fun other member => edges other (List.mem_cons_of_mem _ member)) fun stands => ?_
      exact absent (standsIn_of_standsIn_blankOut (edges pattern List.mem_cons_self) term stands)

/-- The lists of phrases that are taken out, one list after another. -/
def phraseLists : List (List String) :=
  [Locality.places, Traits.conditionOrder.flatMap Traits.conditionTriggers, Maker.vehicleOnlyMakes,
    fillerWords]

theorem phraseGroups_eq : phraseGroups = phraseLists.map anyPhrase := rfl

theorem hasEdges_anyPhrase (phrases : List String) : HasEdges (anyPhrase phrases) :=
  hasEdges_bounded (oneOf (longestFirst phrases)).ignoreCase

theorem subset_listedPhrases {phrases : List String} (known : phrases ∈ phraseLists) :
    phrases ⊆ listedPhrases := by
  simp only [phraseLists, List.mem_cons, List.not_mem_nil, or_false] at known
  intro phrase member
  rcases known with rfl | rfl | rfl | rfl
  all_goals simp only [listedPhrases, List.mem_append, member, true_or, or_true]

theorem isVisible_anyPhrase {phrases : List String} (listed : phrases ⊆ listedPhrases) :
    (anyPhrase phrases).isVisible = true := by
  rw [anyPhrase, isVisible_ignoreCase, isVisible_bounded]
  exact isVisible_oneOf fun phrase member =>
    (isPhrase_of_listed (listed (mem_longestFirst.1 member))).ne_nil

/-- No phrase of a list stands by itself, in either case, once the list has been taken out. -/
theorem not_standsIn_blankOut
    {phrases : List String}
    {entry : String}
    (known : phrases ∈ phraseLists)
    (listed : entry ∈ phrases)
    (term : IsTerm entry.toList)
    (same : folded middle = entry.toList) :
    ¬StandsIn middle (blankOut text (anyPhrase phrases)) := by
  have all := subset_listedPhrases known
  rw [← same] at term
  intro stands
  obtain ⟨before, after, -, opens, closes, nothing⟩ :=
    exists_passed_over (hasEdges_anyPhrase phrases) term.of_folded stands
  have takes : (anyPhrase phrases).Takes before middle after := by
    apply (takes_ignoreCase (isFolded_phrases all)).2
    refine takes_bounded.2 ⟨?_, takes_oneOf.2 ⟨entry, mem_longestFirst.2 listed, same⟩, ?_⟩
    · rw [atBoundary, startsWithWord_append term.ne_nil, term.starts, startsWithWord_folded, opens]
      rfl
    · have ends := term.ends
      rw [atBoundary, startsWithWord_append (by simpa using term.ne_nil), ends,
        startsWithWord_folded, closes]
      rfl
  obtain ⟨found, here⟩ := exists_matchAt? (isVisible_anyPhrase all) takes
  simp [nothing] at here

theorem mem_listedPhrases {entry : String} (listed : entry ∈ phraseLists.flatten) :
    entry ∈ listedPhrases := by
  obtain ⟨phrases, known, member⟩ := List.mem_flatten.1 listed
  exact subset_listedPhrases known member

/-- A phrase of one word is a term. -/
theorem IsPhrase.isTerm
    {entry : String}
    (isPhrase : IsPhrase entry)
    (unspaced : ' ' ∉ entry.toList) :
    IsTerm entry.toList := by
  refine ⟨isPhrase.starts, isPhrase.ends, fun c member =>
    (isPhrase.spaced c member).resolve_left ?_⟩
  rintro rfl
  exact unspaced member

/-- No phrase of the lists that has no blank in it stands by itself in what is left of a text. -/
theorem not_standsIn_strip
    {entry : String}
    (listed : entry ∈ phraseLists.flatten)
    (unspaced : ' ' ∉ entry.toList)
    (same : folded middle = entry.toList)
    (phrase : Text) :
    ¬StandsIn middle (strip phrase) := by
  have term := (isPhrase_of_listed (mem_listedPhrases listed)).isTerm unspaced
  have term' : IsTerm middle := by
    rw [← same] at term
    exact term.of_folded
  obtain ⟨phrases, known, member⟩ := List.mem_flatten.1 listed
  obtain ⟨first, rest, cut⟩ := List.append_of_mem known
  rw [strip, phraseGroups_eq, cut, List.map_append, List.map_cons, List.foldl_append,
    List.foldl_cons]
  apply not_standsIn_foldl_blankOut _ term' (not_standsIn_blankOut known member term same)
  exact List.forall_mem_map.2 fun phrases _ => hasEdges_anyPhrase phrases

/-- If anything is left of a phrase, its keywords hold no place, condition, make of vehicles only or
filler word, in either case, other than one of several words. -/
theorem not_occursIn_read
    {phrase : Text}
    {entry : String}
    (listed : entry ∈ phraseLists.flatten)
    (unspaced : ' ' ∉ entry.toList)
    (left : collapse (strip phrase) ≠ []) :
    (wholeWord entry).ignoreCase.occursIn (read phrase) = false := by
  have isPhrase := isPhrase_of_listed (mem_listedPhrases listed)
  have written := isFolded_bounded (isFolded_literal isPhrase.written)
  have term := isPhrase.isTerm unspaced
  rw [read, if_pos (by simpa using left)]
  apply Bool.eq_false_iff.2
  intro occurs
  obtain ⟨found, member⟩ := List.exists_mem_of_ne_nil _ (List.isSome_head?.1 occurs)
  obtain ⟨opens, taken, closes⟩ :=
    takes_bounded.1 ((takes_ignoreCase written).1 (takes_of_mem_findAll member))
  have same : folded found.text = entry.toList := takes_literal.1 taken
  rw [atBoundary, same, startsWithWord_append term.ne_nil, term.starts, startsWithWord_folded]
    at opens
  rw [atBoundary, same, startsWithWord_append (by simpa using term.ne_nil), term.ends,
    startsWithWord_folded] at closes
  have term' : IsTerm found.text := by
    rw [← same] at term
    exact term.of_folded
  have whole := (whole_of_mem_findAll member).1
  rw [List.append_assoc] at whole
  have stands : StandsIn found.text (collapse (strip phrase)) :=
    ⟨found.before, found.after, whole, by simpa using opens, by simpa using closes⟩
  exact not_standsIn_strip listed unspaced same phrase
    ((standsIn_collapse term'.ne_nil term'.solid _).1 stands)

/-- A make that is written with a hyphen is gone as a whole. -/
theorem not_occursIn_read_mercedes :
    (wholeWord "mercedes-benz").ignoreCase.occursIn
      (read "Find me a red Mercedes-Benz near New Plymouth".toList) = false :=
  not_occursIn_read (by decide +kernel) (by decide) (by decide +kernel)

end Keywords
end SearchPhrase
