import SearchPhrase.Proofs.Text.WordRuns

/-!
# Leaving words out of a text

Stretches of a text may be replaced by blanks.  Where each of them begins and ends between two runs
of word characters, whole runs are left out and all others stay as they are, in their order.  This
is put together from one replacement after another.
-/

namespace SearchPhrase

open Cursor Unicode Text

namespace WordRun

/-- The runs that are left of others when some are left out, all of a kind.  A run that is left
keeps its text; it may no longer come right after a number. -/
inductive Remains (Gone : WordRun → Prop) : List WordRun → List WordRun → Prop where
  /-- No runs. -/
  | nil : Remains Gone [] []
  /-- A run is left. -/
  | keep {kept run : WordRun} {left all : List WordRun} (text : kept.text = run.text)
      (follows : kept.followsNumber = true → run.followsNumber = true)
      (others : Remains Gone left all) : Remains Gone (kept :: left) (run :: all)
  /-- A run is left out. -/
  | drop {run : WordRun} {left all : List WordRun} (gone : Gone run)
      (others : Remains Gone left all) : Remains Gone left (run :: all)

/-- A kind of runs to which a run of the same text still belongs when it comes right after a
number. -/
def IsSteady (Gone : WordRun → Prop) : Prop :=
  ∀ {kept run : WordRun}, kept.text = run.text →
    (kept.followsNumber = true → run.followsNumber = true) → Gone kept → Gone run

namespace Remains

variable {Gone : WordRun → Prop} {left middle all : List WordRun}

theorem refl (runs : List WordRun) : Remains Gone runs runs := by
  induction runs with
  | nil => exact .nil
  | cons run runs ih => exact .keep rfl id ih

theorem nil_of_forall (gone : ∀ run ∈ all, Gone run) : Remains Gone [] all := by
  induction all with
  | nil => exact .nil
  | cons run all ih =>
      exact .drop (gone run (by simp)) (ih fun other member => gone other (by simp [member]))

theorem append
    {left' all' : List WordRun}
    (first : Remains Gone left all)
    (second : Remains Gone left' all') :
    Remains Gone (left ++ left') (all ++ all') := by
  induction first with
  | nil => exact second
  | keep text follows _ ih => exact .keep text follows ih
  | drop gone _ ih => exact .drop gone ih

/-- What is left in the end is left of what there was at first. -/
theorem trans
    (steady : IsSteady Gone)
    (last : Remains Gone left middle)
    (first : Remains Gone middle all) :
    Remains Gone left all := by
  induction first generalizing left with
  | nil => exact last
  | keep text follows _ ih =>
      cases last with
      | keep text' follows' others =>
          exact .keep (text'.trans text) (follows ∘ follows') (ih others)
      | drop gone others => exact .drop (steady text follows gone) (ih others)
  | drop gone _ ih => exact .drop gone (ih last)

/-- The texts that are left are some of those there were, in the same order. -/
theorem sublist (remains : Remains Gone left all) : (left.map text).Sublist (all.map text) := by
  induction remains with
  | nil => exact .slnil
  | keep text _ _ ih =>
      rw [List.map_cons, List.map_cons, text]
      exact ih.cons_cons _
  | drop _ _ ih => exact ih.cons _

/-- All texts of a kind are left if no run of that kind may go. -/
theorem filter_eq
    {kind : Text → Bool}
    (remains : Remains Gone left all)
    (stays : ∀ run, Gone run → kind run.text = false) :
    (left.map text).filter kind = (all.map text).filter kind := by
  induction remains with
  | nil => rfl
  | keep text _ _ ih =>
      rw [List.map_cons, List.map_cons, text, List.filter_cons, List.filter_cons, ih]
  | drop gone _ ih => simp [stays _ gone, ih]

end Remains
end WordRun

namespace Text

/-- A text in which some stretches of another one are replaced by blanks.  What comes before the
text is given back to front, and each stretch is known with what comes before and after it. -/
inductive Blanked (Cut : Text → Text → Text → Prop) : Text → Text → Text → Prop where
  /-- The empty text. -/
  | nil {before : Text} : Blanked Cut before [] []
  /-- A character that stays. -/
  | keep {before rest left : Text} (c : Char) (others : Blanked Cut (c :: before) rest left) :
      Blanked Cut before (c :: rest) (c :: left)
  /-- A stretch that is replaced by a blank. -/
  | blank {before stretch rest left : Text} (cut : Cut before stretch rest)
      (others : Blanked Cut (stretch.reverse ++ before) rest left) :
      Blanked Cut before (stretch ++ rest) (' ' :: left)

/-- A stretch of a text that begins and ends between two runs and whose runs may all go. -/
structure IsSpare (Gone : WordRun → Prop) (before stretch after : Text) : Prop where
  /-- No run goes on into the stretch. -/
  opens : Apart before (stretch ++ after)
  /-- No run goes on out of the stretch. -/
  closes : Apart (stretch.reverse ++ before) after
  /-- Its runs may go. -/
  gone : ∀ run ∈ wordRunsAfter before stretch, Gone run

theorem endsInNumber_append
    {recent : Text}
    (ends : endsInNumber recent = true)
    (before : Text) :
    endsInNumber (recent ++ before) = true := by
  unfold endsInNumber at ends ⊢
  rw [List.dropWhile_append]
  split
  · next none => simp [List.isEmpty_iff.1 none] at ends
  · next some =>
      have nonempty := List.isEmpty_eq_false_iff.1 (Bool.eq_false_iff.2 some)
      rw [List.head?_append, List.head?_eq_some_head nonempty] at *
      exact ends

namespace Blanked

variable {Cut : Text → Text → Text → Prop} {before rest left : Text}

theorem keep_append
    {first : Text}
    (others : Blanked Cut (first.reverse ++ before) rest left) :
    Blanked Cut before (first ++ rest) (first ++ left) := by
  induction first generalizing before with
  | nil => exact others
  | cons c first ih =>
      refine .keep c (ih ?_)
      simpa using others

variable {Gone : WordRun → Prop}

/-- A word that has begun goes on as before. -/
theorem takeWhile_isWord_eq
    (blanked : Blanked (IsSpare Gone) before rest left)
    (goesOn : startsWithWord before = true) :
    left.takeWhile isWord = rest.takeWhile isWord := by
  induction blanked with
  | nil => rfl
  | keep c _ ih =>
      rw [List.takeWhile_cons, List.takeWhile_cons]
      split
      · next word => rw [ih word]
      · rfl
  | blank cut _ _ =>
      have ended := cut.opens.resolve_left (by simp [goesOn])
      rw [takeWhile_isWord_of_startsWithWord ended]
      rfl

/-- Blanks leave out the runs of the stretches that they replace. -/
theorem remains
    (blanked : Blanked (IsSpare Gone) before rest left)
    {seen : Text}
    (fresh : startsWithWord rest = true → startsWithWord seen = startsWithWord before)
    (follows : ∀ recent, endsInNumber (recent ++ seen) = true →
      endsInNumber (recent ++ before) = true) :
    WordRun.Remains Gone (wordRunsAfter seen left) (wordRunsAfter before rest) := by
  induction blanked generalizing seen with
  | nil => exact .nil
  | @keep before rest left c blanked ih =>
      have others := @ih (c :: seen) (fun _ => rfl) fun recent => by
        simpa using follows (recent ++ [c])
      by_cases word : isWord c = true
      · have same := fresh word
        cases goesOn : startsWithWord before with
        | true =>
            rw [wordRunsAfter_cons_of_continues goesOn,
              wordRunsAfter_cons_of_continues (same.trans goesOn)]
            exact others
        | false =>
            rw [wordRunsAfter_cons_of_begins word goesOn,
              wordRunsAfter_cons_of_begins word (same.trans goesOn)]
            refine .keep ?_ (follows []) others
            rw [List.takeWhile_cons_of_pos word, List.takeWhile_cons_of_pos word,
              blanked.takeWhile_isWord_eq word]
      · have notWord : isWord c = false := by simpa using word
        rw [wordRunsAfter_cons_of_not_isWord notWord, wordRunsAfter_cons_of_not_isWord notWord]
        exact others
  | @blank before stretch rest left cut blanked ih =>
      have space : isWhiteSpace ' ' = true := by decide
      have notWord : isWord ' ' = false := isWord_of_isWhiteSpace space
      have others := @ih (' ' :: seen) (fun starts => ?_) fun recent ends => ?_
      · rw [wordRunsAfter_cons_of_not_isWord notWord, wordRunsAfter_append cut.closes]
        exact (WordRun.Remains.nil_of_forall cut.gone).append others
      · exact notWord.trans (cut.closes.resolve_right (by simp [starts])).symm
      · rw [endsInNumber_append_space space] at ends
        exact endsInNumber_append ends _

end Blanked
end Text
end SearchPhrase
