import SearchPhrase.Proofs.Pattern.Folded

/-!
# Searches in another case

A pattern that tells no case apart is taken at the same places of a text in whichever case the text
is written.  Where only the case of a text is changed, its occurrences, its pieces and what is put
in their place therefore change along with it.
-/

namespace SearchPhrase

open Cursor Unicode

/-- Whether a change of characters changes nothing but their case. -/
def IsRecasing (recase : Char → Char) : Prop :=
  ∀ c, CharClass.foldCase (recase c) = CharClass.foldCase c

/-- Small letters in the place of capitals change nothing but their case. -/
theorem isRecasing_toLower : IsRecasing Char.toLower := by
  intro c
  by_cases ascii : c.toNat < 128
  · exact forall_ascii (P := fun c => CharClass.foldCase c.toLower = CharClass.foldCase c)
      (by decide) ascii
  · rw [Text.toLower_of_not_ascii ascii]

variable {recase : Char → Char}

/-- What folding keeps of a character, a change of case keeps too. -/
theorem IsRecasing.apply
    {α : Type}
    {property : Char → α}
    (keeps : IsRecasing recase)
    (folds : ∀ c, property (CharClass.foldCase c) = property c)
    (c : Char) :
    property (recase c) = property c := by
  rw [← folds (recase c), keeps c, folds c]

/-- A place in a text with its case changed. -/
def Cursor.recased (recase : Char → Char) (cursor : Cursor) : Cursor :=
  ⟨cursor.before.map recase, cursor.after.map recase⟩

/-- A named part with its case changed. -/
def Capture.recased (recase : Char → Char) (capture : Capture) : Capture :=
  ⟨capture.slot, capture.start.recased recase, capture.stop.recased recase⟩

/-- An outcome with its case changed. -/
def Outcome.recased (recase : Char → Char) (outcome : Outcome) : Outcome :=
  ⟨outcome.cursor.recased recase, outcome.captures.map (Capture.recased recase)⟩

/-- An occurrence with its case changed. -/
def Match.recased (recase : Char → Char) (found : Match) : Match :=
  ⟨found.before.map recase, found.text.map recase, found.after.map recase,
    found.captures.map (Capture.recased recase)⟩

/-- A piece with its case changed. -/
def Piece.recased (recase : Char → Char) : Piece → Piece
  | plain c => plain (recase c)
  | found occurrence => found (occurrence.recased recase)

namespace Cursor

theorem startsWithWord_map (keeps : IsRecasing recase) (text : Text) :
    startsWithWord (text.map recase) = startsWithWord text := by
  cases text with
  | nil => rfl
  | cons c rest => exact keeps.apply isWord_foldCase c

theorem atBoundary_recased (keeps : IsRecasing recase) (cursor : Cursor) :
    (cursor.recased recase).atBoundary = cursor.atBoundary := by
  rw [recased, atBoundary, startsWithWord_map keeps, startsWithWord_map keeps, atBoundary]

/-- Between two places lies what lay there before. -/
theorem textTo_recased (start stop : Cursor) :
    (start.recased recase).textTo (stop.recased recase) = (start.textTo stop).map recase := by
  simp [textTo, recased, List.map_take]

end Cursor

theorem Capture.text_recased (capture : Capture) :
    (capture.recased recase).text = capture.text.map recase :=
  textTo_recased capture.start capture.stop

/-- An occurrence has the same named parts in another case. -/
theorem Match.slot?_recased (found : Match) (slot : Slot) :
    (found.recased recase).slot? slot = (found.slot? slot).map (List.map recase) := by
  have same : (fun capture : Capture => decide (capture.slot = slot)) ∘ Capture.recased recase =
      fun capture => decide (capture.slot = slot) := rfl
  rw [slot?, recased, List.find?_map, same, Option.map_map, slot?, Option.map_map]
  exact congrArg (Option.map · _) (funext Capture.text_recased)

namespace CharClass

/-- A class that tells no case apart accepts a character in either case. -/
theorem accepts_recased
    {cls : CharClass}
    (keeps : IsRecasing recase)
    (written : cls.isFolded = true)
    (c : Char) :
    cls.ignoreCase.accepts (recase c) = cls.ignoreCase.accepts c := by
  rw [accepts_ignoreCase written, keeps, accepts_ignoreCase written]

theorem step?_recased
    {cls : CharClass}
    (keeps : IsRecasing recase)
    (written : cls.isFolded = true)
    (cursor : Cursor) :
    (cursor.recased recase).step? cls.ignoreCase =
      (cursor.step? cls.ignoreCase).map (Cursor.recased recase) := by
  obtain ⟨before, _ | ⟨c, rest⟩⟩ := cursor
  · rfl
  · rw [recased, List.map_cons, step?, step?, accepts_recased keeps written]
    split <;> rfl

theorem runEndsBefore_recased
    {cls : CharClass}
    (keeps : IsRecasing recase)
    (written : cls.isFolded = true)
    (nearer : List Cursor)
    (before text : Text) :
    runEndsBefore cls.ignoreCase (nearer.map (Cursor.recased recase)) (before.map recase)
        (text.map recase) =
      (runEndsBefore cls.ignoreCase nearer before text).map (Cursor.recased recase) := by
  induction text generalizing nearer before with
  | nil => rfl
  | cons c rest ih =>
      rw [List.map_cons, runEndsBefore, runEndsBefore, accepts_recased keeps written]
      split
      · exact ih (⟨before, c :: rest⟩ :: nearer) (c :: before)
      · rfl

end CharClass

namespace Pattern

/-- A pattern that tells no case apart has the same outcomes in another case. -/
theorem outcomes_recased
    {form : Pattern}
    (keeps : IsRecasing recase)
    (written : form.isFolded = true)
    (outcome : Outcome) :
    form.ignoreCase.outcomes (outcome.recased recase) =
      (form.ignoreCase.outcomes outcome).map (Outcome.recased recase) := by
  induction form generalizing outcome with
  | never => rfl
  | empty => rfl
  | char cls =>
      have step := CharClass.step?_recased keeps written outcome.cursor
      rw [ignoreCase, outcomes, outcomes]
      change ((((outcome.cursor.recased recase).step? cls.ignoreCase).map _).toList) = _
      rw [step]
      cases outcome.cursor.step? cls.ignoreCase <;> rfl
  | seq first second ihFirst ihSecond =>
      rw [isFolded, Bool.and_eq_true] at written
      rw [ignoreCase, outcomes, outcomes, ihFirst written.1, List.flatMap_map, List.map_flatMap]
      exact congrArg (List.flatMap · _) (funext fun middle => ihSecond written.2 middle)
  | alt preferred fallback ihPreferred ihFallback =>
      rw [isFolded, Bool.and_eq_true] at written
      rw [ignoreCase, outcomes, outcomes, ihPreferred written.1, ihFallback written.2,
        List.map_append]
  | run cls =>
      have ends := CharClass.runEndsBefore_recased keeps written [] outcome.cursor.before
        outcome.cursor.after
      have ends : (outcome.cursor.recased recase).runEnds cls.ignoreCase =
          (outcome.cursor.runEnds cls.ignoreCase).map (Cursor.recased recase) := ends
      rw [ignoreCase, outcomes, outcomes, List.map_map]
      change ((outcome.cursor.recased recase).runEnds cls.ignoreCase).map _ = _
      rw [ends, List.map_map]
      rfl
  | boundary =>
      rw [ignoreCase, outcomes, outcomes]
      change (if (outcome.cursor.recased recase).atBoundary then _ else _) = _
      rw [atBoundary_recased keeps]
      split <;> rfl
  | capture slot body ih =>
      rw [ignoreCase, outcomes, outcomes, ih written, List.map_map, List.map_map]
      rfl

variable {form : Pattern}

theorem matchAt?_recased
    (keeps : IsRecasing recase)
    (written : form.isFolded = true)
    (cursor : Cursor) :
    form.ignoreCase.matchAt? (cursor.recased recase) =
      (form.ignoreCase.matchAt? cursor).map (Match.recased recase) := by
  have outcomes : form.ignoreCase.outcomes ⟨cursor.recased recase, []⟩ =
      (form.ignoreCase.outcomes ⟨cursor, []⟩).map (Outcome.recased recase) :=
    outcomes_recased keeps written ⟨cursor, []⟩
  rw [matchAt?, outcomes, matchAt?]
  cases form.ignoreCase.outcomes ⟨cursor, []⟩ with
  | nil => rfl
  | cons outcome others =>
      have text : (cursor.recased recase).textTo (outcome.recased recase).cursor =
          (cursor.textTo outcome.cursor).map recase := textTo_recased cursor outcome.cursor
      simp only [List.map_cons, text]
      cases taken : cursor.textTo outcome.cursor with
      | nil => rfl
      | cons c rest => simp [Match.recased, Outcome.recased, Cursor.recased]

theorem piecesFrom_recased
    (keeps : IsRecasing recase)
    (written : form.isFolded = true)
    (skip : Nat)
    (before text : Text) :
    form.ignoreCase.piecesFrom skip (before.map recase) (text.map recase) =
      (form.ignoreCase.piecesFrom skip before text).map (Piece.recased recase) := by
  induction text generalizing skip before with
  | nil => rfl
  | cons c rest ih =>
      cases skip with
      | succ skip => exact ih skip (c :: before)
      | zero =>
          have here : form.ignoreCase.matchAt? ⟨before.map recase, recase c :: rest.map recase⟩ =
              (form.ignoreCase.matchAt? ⟨before, c :: rest⟩).map (Match.recased recase) :=
            matchAt?_recased keeps written ⟨before, c :: rest⟩
          rw [List.map_cons, piecesFrom, piecesFrom, here]
          cases form.ignoreCase.matchAt? ⟨before, c :: rest⟩ with
          | none => exact congrArg (List.cons _) (ih 0 (c :: before))
          | some found =>
              have length : (found.recased recase).text.length = found.text.length :=
                List.length_map _
              dsimp only [Option.map_some]
              rw [length]
              exact congrArg (List.cons _) (ih (found.text.length - 1) (c :: before))

/-- A search finds the same pieces of a text in another case. -/
theorem pieces_recased
    (keeps : IsRecasing recase)
    (written : form.isFolded = true)
    (text : Text) :
    form.ignoreCase.pieces (text.map recase) =
      (form.ignoreCase.pieces text).map (Piece.recased recase) :=
  piecesFrom_recased keeps written 0 [] text

/-- Where each substitute changes along with the occurrence, so does what a replacement leaves. -/
theorem replace_recased
    {substitute : Match → Text}
    {text : Text}
    (keeps : IsRecasing recase)
    (written : form.isFolded = true)
    (fits : ∀ found ∈ form.ignoreCase.findAll text,
      substitute (found.recased recase) = (substitute found).map recase) :
    form.ignoreCase.replace substitute (text.map recase) =
      (form.ignoreCase.replace substitute text).map recase := by
  rw [replace, pieces_recased keeps written, List.flatMap_map, replace, List.map_flatMap,
    List.flatMap_def, List.flatMap_def]
  refine congrArg List.flatten (List.map_congr_left fun piece member => ?_)
  cases piece with
  | plain c => rfl
  | found occurrence => exact fits occurrence (mem_findAll_iff.2 member)

end Pattern
end SearchPhrase
