import SearchPhrase.Proofs.Pattern.Folded
import SearchPhrase.Proofs.Pattern.Replaced
import SearchPhrase.Proofs.Phrase.Dispensable
import SearchPhrase.Proofs.Phrase.Expressions

/-!
# What is taken out of a phrase

Every text that one of the patterns takes out of a phrase begins and ends between two words, and
all of its words may go.  The patterns are written in folded case, and this carries over to the
phrase as it stands.
-/

namespace SearchPhrase

namespace Pattern

theorem mem_insertLongestFirst {phrase other : String} {phrases : List String} :
    other ∈ insertLongestFirst phrase phrases ↔ other = phrase ∨ other ∈ phrases := by
  induction phrases with
  | nil => simp [insertLongestFirst]
  | cons first phrases ih =>
      rw [insertLongestFirst]
      split
      · simp
      · rw [List.mem_cons, ih, List.mem_cons]
        exact or_left_comm

/-- Putting phrases in order neither adds nor loses any. -/
theorem mem_longestFirst {other : String} {phrases : List String} :
    other ∈ longestFirst phrases ↔ other ∈ phrases := by
  induction phrases with
  | nil => exact Iff.rfl
  | cons phrase phrases ih =>
      rw [longestFirst, List.foldr_cons, mem_insertLongestFirst, List.mem_cons]
      exact or_congr_right ih

end Pattern

namespace Keywords

open Cursor Figure Pattern Text Unicode

/-- Whether every text that a pattern takes begins and ends between two words, all of which may
go. -/
def TakesSpare (pattern : Pattern) : Prop :=
  ∀ {before text after : Text}, pattern.Takes before text after →
    IsSpare IsDispensable before text after

section Prices

variable {before text after : Text}

/-- A pattern between two edges of words takes whole words. -/
theorem takesSpare_bounded
    {body : Pattern}
    (loose : ∀ {before text after : Text}, body.Takes before text after → IsLoose text) :
    TakesSpare (bounded body) := by
  intro before text after takes
  obtain ⟨opens, taken, closes⟩ := takes_bounded.1 takes
  exact ⟨apart_of_atBoundary opens, apart_of_atBoundary closes, loose taken before⟩

theorem isLoose_sum (sum : Sum) : IsLoose sum.text := by
  have alone := isLoose_nil.sum_append sum beginsNoLetter_nil
  rwa [List.append_nil] at alone

/-- An amount may go, even with a unit of distance after it. -/
theorem isLoose_sum_append
    {tail : Text}
    (sum : Sum)
    (isTail : IsDistanceTail tail) :
    IsLoose (sum.text ++ tail) := by
  rcases isTail with rfl | ⟨gap, unit, rfl, blank, known⟩
  · rw [List.append_nil]
    exact isLoose_sum sum
  · have attached : unit ∈ attachedWords := List.mem_cons_of_mem _ known
    have named := isLoose_nil.sum_name_append sum blank attached beginsNoLetter_nil
    rwa [List.append_nil] at named

/-- The words of a limit may stand before others. -/
theorem isLoose_announces_append
    {side : Side}
    {words rest : Text}
    (announces : side.Announces words)
    (others : IsLoose rest)
    (noLetter : BeginsNoLetter rest) :
    IsLoose (words ++ rest) := by
  have connected : "than" :: side.firstWords ⊆ connectives := by cases side <;> decide
  cases announces with
  | word known =>
      have single := connected (List.mem_cons_of_mem _ (List.mem_cons_of_mem _ known))
      exact others.connective_append single noLetter
  | @than gap spaced blank =>
      have than := others.connective_append (connected List.mem_cons_self) noLetter
      have comparative := connected (List.mem_cons_of_mem _ List.mem_cons_self)
      rw [List.append_assoc, List.append_assoc]
      exact (than.gap_append blank).connective_append comparative
        (beginsNoLetter_append_of_spaced spaced blank _)

/-- A limit may go, even with a unit of distance after its amount. -/
theorem isLoose_limit_append
    {side : Side}
    {tail : Text}
    (limit : LimitText side)
    (isTail : IsDistanceTail tail) :
    IsLoose (limit.text ++ tail) := by
  rw [LimitText.text, List.append_assoc, List.append_assoc]
  have amount := (isLoose_sum_append limit.sum isTail).gap_append limit.blank
  exact isLoose_announces_append limit.announces amount
    (beginsNoLetter_append_of_spaced limit.spaced limit.blank _)

/-- An amount between two others may go. -/
theorem isLoose_between (range : BetweenText) : IsLoose range.text := by
  have conjunction : "and" ∈ connectives := by decide
  have preposition : "between" ∈ connectives := by decide
  -- From the second amount back to "between".
  have last := ((isLoose_sum range.second).gap_append range.blank''.2).connective_append conjunction
    (beginsNoLetter_append_of_spaced range.blank''.1 range.blank''.2 _)
  have amounts := (last.gap_append range.blank'.2).sum_append range.first
    (beginsNoLetter_append_of_spaced range.blank'.1 range.blank'.2 _)
  have whole := (amounts.gap_append range.blank.2).connective_append preposition
    (beginsNoLetter_append_of_spaced range.blank.1 range.blank.2 _)
  unfold BetweenText.text BetweenText.opening
  simpa only [List.append_assoc] using whole

/-- A range may go, even with a unit of distance after it. -/
theorem isLoose_range_append
    {tail : Text}
    (range : RangeText)
    (isTail : IsDistanceTail tail) :
    IsLoose (range.text ++ tail) := by
  have whole := (isLoose_sum_append range.second isTail).range_append range.first range.blank
    range.known range.blank'
  simpa only [RangeText.text, RangeText.middle, List.append_assoc] using whole

theorem isLoose_range (range : RangeText) : IsLoose range.text := by
  have alone := isLoose_range_append range (.inl rfl)
  rwa [List.append_nil] at alone

theorem takesSpare_limitExpression : TakesSpare limitExpression := by
  intro before text after takes
  obtain ⟨side, limit, tail, rfl, isTail, opens, closes⟩ := takes_limitExpression.1 takes
  exact ⟨apart_of_atBoundary opens, apart_of_atBoundary closes,
    isLoose_limit_append limit isTail before⟩

theorem takesSpare_betweenExpression : TakesSpare betweenExpression := by
  intro before text after takes
  obtain ⟨range, rfl, opens, closes⟩ := takes_betweenExpression.1 takes
  exact ⟨apart_of_atBoundary opens, apart_of_atBoundary closes, isLoose_between range before⟩

theorem takesSpare_currencyRange : TakesSpare currencyRange := by
  intro before text after takes
  obtain ⟨range, rfl, sign, closes⟩ := takes_currencyRange.1 takes
  have marked : startsWithWord (range.text ++ after) = false := by
    rw [RangeText.text, Sum.text, sign]
    rfl
  exact ⟨.inr marked, apart_of_atBoundary closes, isLoose_range range before⟩

theorem takesSpare_scaledRange : TakesSpare scaledRange := by
  intro before text after takes
  obtain ⟨range, rfl, -, -, opens, closes⟩ := takes_scaledRange.1 takes
  exact ⟨apart_of_atBoundary opens, apart_of_atBoundary closes, isLoose_range range before⟩

theorem takesSpare_plainForm : TakesSpare plainForm := by
  intro before text after takes
  obtain ⟨range, tail, rfl, -, opens, closes, isTail, ends⟩ := takes_plainForm.1 takes
  -- The unit of distance ends at the edge of a word, as the range does without one.
  have closes : Cursor.atBoundary ⟨(range.text ++ tail).reverse ++ before, after⟩ = true := by
    by_cases none : tail = []
    · simpa [none] using closes
    · exact ends none
  exact ⟨apart_of_atBoundary opens, apart_of_atBoundary closes,
    isLoose_range_append range isTail before⟩

end Prices

/-- How a listed phrase is written. -/
structure IsPhrase (phrase : String) : Prop where
  /-- It begins with a word. -/
  starts : startsWithWord phrase.toList = true
  /-- It ends with a word. -/
  ends : startsWithWord phrase.toList.reverse = true
  /-- It is in folded case. -/
  written : ∀ c ∈ phrase.toList, CharClass.foldCase c = c
  /-- Nothing but blanks stands between its words. -/
  spaced : ∀ c ∈ phrase.toList, c = ' ' ∨ isWhiteSpace c = false

theorem isPhrase_of_listed {phrase : String} (listed : phrase ∈ listedPhrases) :
    IsPhrase phrase := by
  have each : ∀ phrase ∈ listedPhrases, startsWithWord phrase.toList = true ∧
      startsWithWord phrase.toList.reverse = true ∧ ∀ c ∈ phrase.toList,
        CharClass.foldCase c = c ∧ (c = ' ' ∨ isWhiteSpace c = false) := by
    decide +kernel
  obtain ⟨starts, ends, letters⟩ := each phrase listed
  exact ⟨starts, ends, fun c member => (letters c member).1, fun c member => (letters c member).2⟩

theorem IsPhrase.ne_nil {phrase : String} (isPhrase : IsPhrase phrase) : phrase.toList ≠ [] := by
  intro empty
  have starts := isPhrase.starts
  rw [empty] at starts
  cases starts

/-- Listed phrases are looked for in folded case. -/
theorem isFolded_phrases
    {phrases : List String}
    (listed : phrases ⊆ listedPhrases) :
    (bounded (oneOf (longestFirst phrases))).isFolded = true :=
  isFolded_bounded (isFolded_oneOf fun _ member =>
    isFolded_literal (isPhrase_of_listed (listed (mem_longestFirst.1 member))).written)

/-- A phrase of the lists may go as a whole. -/
theorem takesSpare_phrases
    {phrases : List String}
    (listed : phrases ⊆ listedPhrases) :
    TakesSpare (bounded (oneOf (longestFirst phrases))) := by
  apply takesSpare_bounded
  intro before text after takes
  obtain ⟨phrase, member, rfl⟩ := takes_oneOf.1 takes
  have known := listed (mem_longestFirst.1 member)
  intro before run begins
  exact .inl (.inr (List.mem_flatMap.2 ⟨phrase, known, text_mem_map_wordRuns begins⟩))

/-- Whether the keywords may do without a word, in either case. -/
def MayGo (run : WordRun) : Prop :=
  IsDispensable run.folded

theorem isSteady_mayGo : WordRun.IsSteady MayGo := by
  intro kept run text follows gone
  have texts : kept.folded.text = run.folded.text := congrArg folded text
  exact isSteady_isDispensable texts follows gone

/-- Replacing what a pattern takes, each time by a blank or by itself, leaves out words that may
go. -/
theorem remains_replace
    {form : Pattern}
    {substitute : Match → Text}
    (written : form.isFolded = true)
    (spare : TakesSpare form)
    (each : ∀ found, substitute found = found.text ∨ substitute found = [' '])
    (text : Text) :
    WordRun.Remains MayGo (wordRuns (form.ignoreCase.replace substitute text)) (wordRuns text) := by
  have blanked : Blanked (IsSpare MayGo) [] text (form.ignoreCase.replace substitute text) := by
    apply blanked_replace
    intro found member
    refine (each found).imp_right fun blank => ⟨blank, ?_⟩
    exact .of_folded (spare ((takes_ignoreCase written).1 (takes_of_mem_findAll member)))
  exact blanked.remains (fun _ => rfl) fun _ ends => ends

end Keywords
end SearchPhrase
