import Mathlib.Data.List.Induction
import SearchPhrase.Proofs.Phrase.ClearedPhrases

/-!
# A stretch under one replacement after another

Texts are cleaned by several replacements, each of which takes out occurrences of a pattern of its
own.  A stretch that a replacement passes over stands in the text that it leaves, between what is
left of the text around it; otherwise an occurrence meets the stretch.
-/

namespace SearchPhrase

open Cursor Pattern Text Unicode

namespace Text

/-- The words that a text goes on with depend on what comes before it only in whether a word goes on
from there. -/
theorem map_text_wordRunsAfter_congr
    {before before' : Text}
    (same : startsWithWord before = startsWithWord before')
    (text : Text) :
    (wordRunsAfter before text).map WordRun.text =
      (wordRunsAfter before' text).map WordRun.text := by
  induction text generalizing before before' with
  | nil => rfl
  | cons c rest ih =>
      have others := @ih (c :: before) (c :: before') rfl
      rw [wordRunsAfter, wordRunsAfter, same]
      split
      · rw [List.map_cons, List.map_cons, others]
      · exact others

/-- The words of a text, as texts. -/
def wordTexts (text : Text) : List Text :=
  (wordRuns text).map WordRun.text

/-- A text that is cut where no word goes on has the words of both parts. -/
theorem wordTexts_append
    {first second : Text}
    (apart : Apart first.reverse second) :
    wordTexts (first ++ second) = wordTexts first ++ wordTexts second := by
  rw [wordTexts, wordRuns, wordRunsAfter_append (by simpa using apart), List.map_append]
  refine congrArg _ ?_
  rcases apart with ended | ended
  · exact map_text_wordRunsAfter_congr (by rw [List.append_nil, ended]; rfl) second
  · cases second with
    | nil => rfl
    | cons c rest =>
        have notWord : isWord c = false := ended
        rw [wordTexts, wordRuns, wordRunsAfter_cons_of_not_isWord notWord,
          wordRunsAfter_cons_of_not_isWord notWord]
        exact @map_text_wordRunsAfter_congr (c :: (first.reverse ++ [])) [c] rfl rest

/-- A text without words. -/
def IsWordless (text : Text) : Prop :=
  ∀ c ∈ text, isWord c = false

theorem isWordless_nil : IsWordless [] :=
  fun _ member => absurd member List.not_mem_nil

theorem wordTexts_of_isWordless {text : Text} (wordless : IsWordless text) :
    wordTexts text = [] := by
  have none : ∀ before, wordRunsAfter before text = [] := by
    induction text with
    | nil => exact fun _ => rfl
    | cons c rest ih =>
        intro before
        rw [wordRunsAfter_cons_of_not_isWord (wordless c List.mem_cons_self)]
        exact ih (fun d member => wordless d (List.mem_cons_of_mem _ member)) _
  rw [wordTexts, wordRuns, none, List.map_nil]

theorem IsWordless.startsWithWord {text : Text} (wordless : IsWordless text) :
    startsWithWord text = false := by
  cases text with
  | nil => rfl
  | cons c rest => exact wordless c List.mem_cons_self

theorem IsWordless.reverse {text : Text} (wordless : IsWordless text) : IsWordless text.reverse :=
  fun c member => wordless c (List.mem_reverse.1 member)

/-- Whether a word goes on from a text shows in the last part of it. -/
theorem apart_reverse_append_iff
    {before text after : Text}
    (nonempty : text ≠ []) :
    Apart (before ++ text).reverse after ↔ Apart text.reverse after := by
  rw [List.reverse_append, Apart, Apart, startsWithWord_append (by simpa using nonempty)]

theorem apart_folded_iff {before after : Text} :
    Apart (folded before) (folded after) ↔ Apart before after := by
  rw [Apart, Apart, startsWithWord_folded, startsWithWord_folded]

/-- What is apart from a text is apart from any part of it that is nearest. -/
theorem Apart.of_append
    {before more after more' : Text}
    (apart : Apart (before ++ more) (after ++ more')) :
    Apart before after := by
  cases before with
  | nil => exact .inl rfl
  | cons c before =>
      cases after with
      | nil => exact .inr rfl
      | cons d after => exact apart

end Text

/-- A replacement: a pattern, and what its occurrences leave behind. -/
structure Pass where
  /-- The pattern. -/
  pattern : Pattern
  /-- What an occurrence leaves behind. -/
  residue : Match → Text

namespace Pass

/-- What a replacement makes of a text. -/
def run (pass : Pass) (text : Text) : Text :=
  pass.pattern.replace pass.residue text

/-- Whether a replacement leaves a blank or the occurrence itself, and finds occurrences only
between words. -/
structure IsClean (pass : Pass) : Prop where
  /-- No word goes on into an occurrence or out of it. -/
  edges : HasEdges pass.pattern
  /-- An occurrence leaves itself or a blank. -/
  each : ∀ found, pass.residue found = found.text ∨ pass.residue found = [' ']

/-- What some pieces leave behind. -/
def left (pass : Pass) (pieces : List Piece) : Text :=
  pieces.flatMap (pieceText pass.residue)

variable {pass : Pass}

@[simp] theorem left_append (first second : List Piece) :
    pass.left (first ++ second) = pass.left first ++ pass.left second :=
  List.flatMap_append

theorem left_plain_cons (c : Char) (pieces : List Piece) :
    pass.left (.plain c :: pieces) = c :: pass.left pieces :=
  rfl

theorem left_found_cons (found : Match) (pieces : List Piece) :
    pass.left (.found found :: pieces) = pass.residue found ++ pass.left pieces :=
  rfl

@[simp] theorem left_map_plain (text : Text) : pass.left (text.map .plain) = text := by
  induction text with
  | nil => rfl
  | cons c text ih => rw [List.map_cons, left_plain_cons, ih]

section Left

variable {text : Text} {first middle last pieces : List Piece}

/-- Some pieces of a text in a row leave out words of theirs. -/
theorem wordTexts_left
    (clean : pass.IsClean)
    (cut : pass.pattern.pieces text = first ++ (middle ++ last)) :
    (wordTexts (pass.left middle)).Sublist (wordTexts (piecesText middle)) := by
  -- The induction carries along the pieces that come before in the row.
  suffices blanked : ∀ past pieces, middle = past ++ pieces →
      Blanked (IsSpare fun _ => True) (piecesText past).reverse (piecesText pieces)
        (pass.left pieces) from
    ((blanked [] middle rfl).remains (fun _ => rfl) fun _ ends => ends).sublist
  intro past pieces
  induction pieces generalizing past with
  | nil => exact fun _ => .nil
  | cons piece pieces ih =>
      intro row
      have others := ih (past ++ [piece]) (by simp [row])
      cases piece with
      | plain c =>
          have row : Blanked (IsSpare fun _ => True) (c :: (piecesText past).reverse)
              (piecesText pieces) (pass.left pieces) := by
            simpa using others
          exact .keep c row
      | found occurrence =>
          have placed : pass.pattern.pieces text =
              (first ++ past) ++ .found occurrence :: (pieces ++ last) := by
            rw [cut, row]
            simp
          obtain ⟨opens, closes⟩ := clean.edges (takes_of_pieces_eq placed)
          simp only [piecesText_append, List.reverse_append] at opens closes
          rw [← List.append_assoc] at opens closes
          have rest : Blanked (IsSpare fun _ => True)
              (occurrence.text.reverse ++ (piecesText past).reverse) (piecesText pieces)
              (pass.left pieces) := by
            simpa using others
          rw [piecesText_found_cons, left_found_cons]
          rcases clean.each occurrence with kept | blank
          · rw [kept]
            exact rest.keep_append
          · rw [blank]
            exact .blank ⟨opens.of_append, closes.of_append, fun _ _ => trivial⟩ rest

/-- What pieces leave behind begins like their text, unless it begins with a blank. -/
theorem head?_piecesText
    {c : Char}
    (clean : pass.IsClean)
    (head : (pass.left pieces).head? = some c)
    (notBlank : c ≠ ' ') :
    (piecesText pieces).head? = some c := by
  induction pieces with
  | nil => cases head
  | cons piece pieces ih =>
      cases piece with
      | plain d => exact head
      | found occurrence =>
          rw [left_found_cons, List.head?_append] at head
          rw [piecesText_found_cons, List.head?_append]
          rcases clean.each occurrence with kept | blank
          · rw [kept] at head
            cases opening : occurrence.text.head? with
            | none =>
                rw [opening, Option.none_or] at head
                rw [Option.none_or, ih head]
            | some d => rwa [opening] at head
          · rw [blank] at head
            cases head
            exact absurd rfl notBlank

/-- What pieces leave behind ends like their text, unless it ends in a blank. -/
theorem getLast?_piecesText
    {c : Char}
    (clean : pass.IsClean)
    (last : (pass.left pieces).getLast? = some c)
    (notBlank : c ≠ ' ') :
    (piecesText pieces).getLast? = some c := by
  induction pieces using List.reverseRecOn with
  | nil => cases last
  | append_singleton pieces piece ih =>
      rw [left_append, List.getLast?_append] at last
      rw [piecesText_append, List.getLast?_append]
      cases piece with
      | plain d => exact last
      | found occurrence =>
          have alone : pass.left [.found occurrence] = pass.residue occurrence :=
            List.append_nil _
          have alone' : piecesText [.found occurrence] = occurrence.text := List.append_nil _
          rw [alone] at last
          rw [alone']
          rcases clean.each occurrence with kept | blank
          · rw [kept] at last
            cases ending : occurrence.text.getLast? with
            | none =>
                rw [ending, Option.none_or] at last
                rw [Option.none_or, ih last]
            | some d => rwa [ending] at last
          · rw [blank] at last
            cases last
            exact absurd rfl notBlank

end Left

/-! ## One replacement -/

/-- How a stretch is passed over: the pieces around it are those of the text before it and after
it. -/
inductive PassesOver (pass : Pass) (body : Text) : Text → Text → Text → Text → Prop where
  /-- No occurrence meets the stretch. -/
  | between {first last : List Piece}
      (cut : pass.pattern.pieces (piecesText first ++ (body ++ piecesText last)) =
        first ++ (body.map .plain ++ last)) :
      PassesOver pass body (piecesText first) (piecesText last) (pass.left first) (pass.left last)

/-- What becomes of the text around a stretch: words are left out, and where the text changes next
to the stretch a blank comes to stand. -/
structure Thins (before after before' after' : Text) : Prop where
  /-- The words before the stretch are some of those before. -/
  words : (wordTexts before').Sublist (wordTexts before)
  /-- The words after the stretch are some of those before. -/
  words' : (wordTexts after').Sublist (wordTexts after)
  /-- The text before the stretch ends as before, or in a blank. -/
  last : ∀ c, before'.getLast? = some c → c ≠ ' ' → before.getLast? = some c
  /-- The text after the stretch begins as before, or with a blank. -/
  first : ∀ c, after'.head? = some c → c ≠ ' ' → after.head? = some c

theorem Thins.refl (before after : Text) : Thins before after before after :=
  ⟨.refl _, .refl _, fun _ last _ => last, fun _ first _ => first⟩

theorem Thins.trans
    {before after before' after' before'' after'' : Text}
    (thins : Thins before after before' after')
    (thins' : Thins before' after' before'' after'') :
    Thins before after before'' after'' := by
  refine ⟨thins'.words.trans thins.words, thins'.words'.trans thins.words', ?_, ?_⟩
  · intro c last notBlank
    exact thins.last c (thins'.last c last notBlank) notBlank
  · intro c first notBlank
    exact thins.first c (thins'.first c first notBlank) notBlank

/-- No word comes to end right before a stretch. -/
theorem Thins.startsWithWord_before
    {before after before' after' : Text}
    (thins : Thins before after before' after')
    (fresh : startsWithWord before.reverse = false) :
    startsWithWord before'.reverse = false := by
  rcases List.eq_nil_or_concat before' with rfl | ⟨front, c, rfl⟩
  · rfl
  · by_cases blank : c = ' '
    · subst blank
      rw [List.concat_eq_append, List.reverse_append]
      exact isWord_of_isWhiteSpace (by decide)
    · have last := thins.last c (by simp) blank
      obtain ⟨others, rfl⟩ := List.getLast?_eq_some_iff.1 last
      rw [List.reverse_append] at fresh
      rw [List.concat_eq_append, List.reverse_append]
      exact fresh

/-- No word comes to begin right after a stretch. -/
theorem Thins.startsWithWord_after
    {before after before' after' : Text}
    (thins : Thins before after before' after')
    (ended : startsWithWord after = false) :
    startsWithWord after' = false := by
  cases after' with
  | nil => rfl
  | cons c rest =>
      by_cases blank : c = ' '
      · subst blank
        exact isWord_of_isWhiteSpace (by decide)
      · obtain ⟨others, rfl⟩ := List.head?_eq_some_iff.1 (thins.first c rfl blank)
        exact ended

/-- No word comes to go on into a stretch or out of it where words are left out around it. -/
theorem Thins.apart
    {before after before' after' body : Text}
    (thins : Thins before after before' after')
    (opens : Apart before.reverse body)
    (closes : Apart body.reverse after) :
    Apart before'.reverse body ∧ Apart body.reverse after' :=
  ⟨opens.imp_left thins.startsWithWord_before, closes.imp_right thins.startsWithWord_after⟩

section PassesOver

variable {body before after before' after' : Text}

/-- A stretch that is passed over stands in the text that is left. -/
theorem PassesOver.run_eq (passed : PassesOver pass body before after before' after') :
    pass.run (before ++ (body ++ after)) = before' ++ (body ++ after') := by
  obtain ⟨cut⟩ := passed
  rw [run, replace, cut]
  change pass.left _ = _
  rw [left_append, left_append, left_map_plain]

/-- Nothing is found at the start of a stretch that is passed over. -/
theorem PassesOver.matchAt?_eq_none
    (passed : PassesOver pass body before after before' after')
    (nonempty : body ≠ []) :
    pass.pattern.matchAt? ⟨before.reverse, body ++ after⟩ = none := by
  obtain @⟨first, last, cut⟩ := passed
  obtain ⟨c, rest, rfl⟩ := List.exists_cons_of_ne_nil nonempty
  have placed := matchAt?_of_pieces_eq cut
  simpa [occurrence?] using placed

theorem PassesOver.thins
    (clean : pass.IsClean)
    (passed : PassesOver pass body before after before' after') :
    Thins before after before' after' := by
  obtain @⟨first, last, cut⟩ := passed
  refine ⟨?_, ?_, ?_, ?_⟩
  · exact @wordTexts_left pass _ [] first _ clean cut
  · exact @wordTexts_left pass _ (first ++ body.map .plain) last [] clean (by simpa using cut)
  · exact fun _ => getLast?_piecesText clean
  · exact fun _ => head?_piecesText clean

end PassesOver

end Pass

namespace Stretch

/-- The stretch between a text before it and a text after it. -/
def between (before body after : Text) : Stretch (before ++ (body ++ after)) :=
  ⟨before, body, after, rfl⟩

end Stretch

namespace Pass

variable {pass : Pass} {body before after : Text}

/-- A stretch is passed over, or an occurrence meets it. -/
theorem passesOver_or_meets
    (pass : Pass)
    (nonempty : body ≠ [])
    (before after : Text) :
    (∃ before' after', pass.PassesOver body before after before' after') ∨
      ∃ found ∈ pass.pattern.findAll (before ++ (body ++ after)),
        found.span.meets (Stretch.between before body after).span = true := by
  have positive := byteLength_pos nonempty
  -- An occurrence meets the stretch if it begins before its end and ends after its start.
  have meets : ∀ {first last : List Piece} {found : Match},
      pass.pattern.pieces (before ++ (body ++ after)) = first ++ .found found :: last →
      byteLength (piecesText first) < byteLength before + byteLength body →
      byteLength before < byteLength (piecesText first) + byteLength found.text →
      ∃ found ∈ pass.pattern.findAll (before ++ (body ++ after)),
        found.span.meets (Stretch.between before body after).span = true := by
    intro first last found cut begins ends
    have place := (eq_of_pieces_eq cut).1
    refine ⟨found, mem_findAll_of_pieces_eq cut, Span.meets_iff.2 ?_⟩
    simpa [Stretch.span, Stretch.between, Match.span, place] using ⟨begins, ends⟩
  have whole := @piecesText_pieces pass.pattern (before ++ (body ++ after))
  rcases cut_cases whole with ⟨first, others, cut, rfl, tail⟩ |
    ⟨first, found, last, start, stop, cut, rfl, text, some, some', -⟩
  · rcases cut_cases tail with ⟨middle, last, rfl, same, rfl⟩ |
      ⟨middle, found, last, start, stop, rfl, rfl, text, some, some', rfl⟩
    · rcases eq_map_plain_or_found middle with plain | ⟨middle, found, middle', rfl⟩
      · rw [same] at plain
        rw [plain] at cut
        exact .inl ⟨_, _, .between cut⟩
      · right
        have cut : pass.pattern.pieces _ = (first ++ middle) ++ .found found :: (middle' ++ last) :=
          cut.trans (by simp)
        have positive' := byteLength_pos (whole_of_mem_findAll (mem_findAll_of_pieces_eq cut)).2
        refine meets cut ?_ ?_ <;>
          simp only [← same, piecesText_append, piecesText_found_cons, byteLength_append] <;> omega
    · right
      have positive' := byteLength_pos some
      refine @meets (first ++ middle) last found (by simpa using cut) ?_ ?_ <;>
        simp only [text, piecesText_append, byteLength_append] <;> omega
  · right
    have positive' := byteLength_pos some'
    refine meets cut ?_ ?_ <;> simp only [text, byteLength_append] <;> omega

/-- Where an occurrence that takes in a stretch leaves a blank, the words are some of those around
the stretch. -/
theorem wordTexts_run_of_covers
    {found : Match}
    (clean : pass.IsClean)
    (member : found ∈ pass.pattern.findAll (before ++ (body ++ after)))
    (starts : found.span.start ≤ (Stretch.between before body after).span.start)
    (stops : (Stretch.between before body after).span.stop ≤ found.span.stop)
    (blank : pass.residue found = [' ']) :
    (wordTexts (pass.run (before ++ (body ++ after)))).Sublist
      (wordTexts before ++ wordTexts after) := by
  rw [← Stretch.span_ofMatch member] at starts stops
  obtain ⟨head, tail, opening, split, closing⟩ := Stretch.exists_split_of_covers starts stops
  obtain ⟨opens, closes⟩ := clean.edges (takes_of_mem_findAll member)
  have split : found.text = head ++ (body ++ tail) := split
  obtain ⟨first, last, cut, place, place'⟩ := exists_pieces_eq_of_mem_findAll member
  have opening : before = piecesText first ++ head := by
    rw [← List.reverse_reverse (piecesText first), ← place]
    exact opening
  have closing : after = tail ++ piecesText last := by
    rw [← place']
    exact closing
  rw [place, place', split] at opens closes
  have opens : Apart (piecesText first).reverse head := by
    refine @Apart.of_append _ [] _ ((body ++ tail) ++ piecesText last) ?_
    simpa only [List.append_nil, List.append_assoc] using opens
  have closes : Apart tail.reverse (piecesText last) := by
    refine @Apart.of_append _ ((head ++ body).reverse ++ (piecesText first).reverse) _ [] ?_
    simpa only [List.append_nil, List.append_assoc, List.reverse_append] using closes
  have run : pass.run (before ++ (body ++ after)) = pass.left first ++ ' ' :: pass.left last := by
    change (pass.pattern.pieces _).flatMap _ = _
    rw [cut]
    change pass.left _ = _
    rw [left_append, left_found_cons, blank, List.singleton_append]
  rw [run, opening, closing, wordTexts, wordRuns_append_cons_space (by decide), List.map_append,
    wordTexts_append opens, wordTexts_append closes]
  have others := @wordTexts_left pass _ [] first _ clean cut
  have others' := @wordTexts_left pass _ (first ++ [.found found]) last [] clean
    (by simpa using cut)
  exact (others.trans (List.sublist_append_left _ _)).append
    (others'.trans (List.sublist_append_right _ _))

/-! ## One replacement after another -/

/-- What several replacements make of a text, one after another. -/
def runAll (passes : List Pass) (text : Text) : Text :=
  passes.foldl (fun text pass => pass.run text) text

theorem wordTexts_runAll
    {passes : List Pass}
    (clean : ∀ pass ∈ passes, pass.IsClean)
    (text : Text) :
    (wordTexts (runAll passes text)).Sublist (wordTexts text) := by
  induction passes generalizing text with
  | nil => exact .refl _
  | cons pass passes ih =>
      have words := @wordTexts_left pass text [] (pass.pattern.pieces text) []
        (clean pass List.mem_cons_self) (by simp)
      rw [piecesText_pieces] at words
      exact (ih (fun other member => clean other (List.mem_cons_of_mem _ member)) _).trans words

/-- How a stretch stands through several replacements: each passes it over. -/
inductive StandsThrough (body : Text) : List Pass → Text → Text → Text → Text → Prop where
  /-- There is no replacement. -/
  | nil {before after : Text} : StandsThrough body [] before after before after
  /-- A replacement passes the stretch over, and so do the others after it. -/
  | cons {pass : Pass} {passes : List Pass}
      {before after before' after' before'' after'' : Text}
      (passed : pass.PassesOver body before after before' after')
      (others : StandsThrough body passes before' after' before'' after'') :
      StandsThrough body (pass :: passes) before after before'' after''

section StandsThrough

variable {passes : List Pass} {before' after' : Text}

/-- A stretch that stands through replacements stands in the text that they leave. -/
theorem StandsThrough.runAll_eq
    (stands : StandsThrough body passes before after before' after') :
    runAll passes (before ++ (body ++ after)) = before' ++ (body ++ after') := by
  induction stands with
  | nil => rfl
  | cons passed _ ih => rw [runAll, List.foldl_cons, passed.run_eq, ← runAll, ih]

/-- Around a stretch that stands through replacements, words are only left out. -/
theorem StandsThrough.thins
    (clean : ∀ pass ∈ passes, pass.IsClean)
    (stands : StandsThrough body passes before after before' after') :
    Thins before after before' after' := by
  induction stands with
  | nil => exact .refl _ _
  | cons passed _ ih =>
      exact (passed.thins (clean _ List.mem_cons_self)).trans
        (ih fun other member => clean other (List.mem_cons_of_mem _ member))

/-- A stretch that stands through replacements is passed over by the last of them. -/
theorem StandsThrough.exists_last
    (stands : StandsThrough body (passes ++ [pass]) before after before' after') :
    ∃ before'' after'', StandsThrough body passes before after before'' after'' ∧
      pass.PassesOver body before'' after'' before' after' := by
  induction passes generalizing before after with
  | nil =>
      cases stands with
      | cons passed others =>
          cases others
          exact ⟨before, after, .nil, passed⟩
  | cons other passes ih =>
      cases stands with
      | cons passed others =>
          obtain ⟨before'', after'', stands, last⟩ := ih others
          exact ⟨before'', after'', .cons passed stands, last⟩

/-- A stretch stands through replacements, or an occurrence meets it. -/
theorem standsThrough_or_meets
    (passes : List Pass)
    (nonempty : body ≠ [])
    (before after : Text) :
    (∃ before' after', StandsThrough body passes before after before' after') ∨
      ∃ earlier pass later, passes = earlier ++ pass :: later ∧ ∃ before' after',
        StandsThrough body earlier before after before' after' ∧
        ∃ found ∈ pass.pattern.findAll (before' ++ (body ++ after')),
          found.span.meets (Stretch.between before' body after').span = true := by
  induction passes generalizing before after with
  | nil => exact .inl ⟨before, after, .nil⟩
  | cons pass passes ih =>
      rcases passesOver_or_meets pass nonempty before after with ⟨before', after', passed⟩ | meets
      · rcases ih before' after' with ⟨before'', after'', stands⟩ |
          ⟨earlier, other, later, rfl, before'', after'', stands, meets⟩
        · exact .inl ⟨before'', after'', .cons passed stands⟩
        · exact .inr ⟨pass :: earlier, other, later, rfl, before'', after'', .cons passed stands,
            meets⟩
      · exact .inr ⟨[], pass, passes, rfl, before, after, .nil, meets⟩

/-- A stretch that is taken out as a whole leaves no more words than there are around it. -/
theorem wordTexts_runAll_of_covers
    {earlier later : List Pass}
    {found : Match}
    (clean : ∀ other ∈ earlier ++ pass :: later, other.IsClean)
    (stands : StandsThrough body earlier before after before' after')
    (member : found ∈ pass.pattern.findAll (before' ++ (body ++ after')))
    (starts : found.span.start ≤ (Stretch.between before' body after').span.start)
    (stops : (Stretch.between before' body after').span.stop ≤ found.span.stop)
    (blank : pass.residue found = [' ']) :
    (wordTexts (runAll (earlier ++ pass :: later) (before ++ (body ++ after)))).Sublist
      (wordTexts before ++ wordTexts after) := by
  have run : runAll (earlier ++ pass :: later) (before ++ (body ++ after)) =
      runAll later (pass.run (before' ++ (body ++ after'))) := by
    rw [← stands.runAll_eq, runAll, List.foldl_append, List.foldl_cons]
    rfl
  have thins := stands.thins fun other known => clean other (List.mem_append_left _ known)
  rw [run]
  refine ((wordTexts_runAll (fun other known => clean other (by simp [known])) _).trans
    (wordTexts_run_of_covers (clean pass (by simp)) member starts stops blank)).trans ?_
  exact thins.words.append thins.words'

end StandsThrough

end Pass
end SearchPhrase
