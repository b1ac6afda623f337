import SearchPhrase.Proofs.Pattern.Passes

/-!
# Figures that the keywords lose

Four kinds of price expressions and the ranges of plain numbers are taken out of a phrase one kind
after another, before any listed phrase is.  A stretch of the phrase that one of the patterns takes
is met by an occurrence at the latest when its own turn comes.  Where that occurrence takes in the
whole stretch and leaves a blank, the stretch is gone from the keywords.
-/

namespace SearchPhrase
namespace Keywords

open Cursor Pass Pattern Text Unicode

/-- The replacement that leaves a blank for every occurrence. -/
def blanking (pattern : Pattern) : Pass :=
  ⟨pattern, fun _ => [' ']⟩

/-- The replacement that takes out the ranges of plain numbers that read as prices. -/
def plainRanges : Pass :=
  ⟨plainRange, rangeResidue⟩

/-- The replacements that take out figures. -/
def figurePasses : List Pass :=
  priceExpressions.map blanking ++ [plainRanges]

/-- The replacements that take out listed phrases. -/
def phrasePasses : List Pass :=
  phraseGroups.map blanking

/-- A phrase loses its figures and then its listed phrases. -/
theorem strip_eq_runAll (phrase : Text) :
    strip phrase = runAll (figurePasses ++ phrasePasses) phrase := by
  rw [runAll, figurePasses, phrasePasses, List.foldl_append, List.foldl_append, List.foldl_map,
    List.foldl_map, List.foldl_cons, List.foldl_nil]
  rfl

theorem isClean_blanking {pattern : Pattern} (edges : HasEdges pattern) :
    (blanking pattern).IsClean :=
  ⟨edges, fun _ => .inr rfl⟩

/-- What is spare in folded case stands between words. -/
theorem hasEdges_ignoreCase
    {form : Pattern}
    (written : form.isFolded = true)
    (spare : TakesSpare form) :
    HasEdges form.ignoreCase := by
  intro before text after takes
  have stretch := IsSpare.of_folded (spare ((takes_ignoreCase written).1 takes))
  exact ⟨stretch.opens, stretch.closes⟩

theorem isClean_of_mem_figurePasses {pass : Pass} (known : pass ∈ figurePasses) : pass.IsClean := by
  have forms : pass = blanking limitExpression.ignoreCase ∨
      pass = blanking betweenExpression.ignoreCase ∨ pass = blanking currencyRange.ignoreCase ∨
      pass = blanking scaledRange.ignoreCase ∨ pass = plainRanges := by
    simpa [figurePasses, priceExpressions] using known
  rcases forms with rfl | rfl | rfl | rfl | rfl
  · exact isClean_blanking (hasEdges_ignoreCase (by decide) takesSpare_limitExpression)
  · exact isClean_blanking (hasEdges_ignoreCase (by decide) takesSpare_betweenExpression)
  · exact isClean_blanking (hasEdges_ignoreCase (by decide) takesSpare_currencyRange)
  · exact isClean_blanking (hasEdges_ignoreCase (by decide) takesSpare_scaledRange)
  · refine ⟨@hasEdges_ignoreCase plainForm (by decide) takesSpare_plainForm, fun found => ?_⟩
    change rangeResidue found = found.text ∨ rangeResidue found = [' ']
    unfold rangeResidue
    split
    · exact .inr rfl
    · exact .inl rfl

theorem isClean_of_mem {pass : Pass} (known : pass ∈ figurePasses ++ phrasePasses) :
    pass.IsClean := by
  rcases List.mem_append.1 known with known | known
  · exact isClean_of_mem_figurePasses known
  · obtain ⟨pattern, member, rfl⟩ := List.mem_map.1 known
    rw [phraseGroups_eq] at member
    obtain ⟨phrases, -, rfl⟩ := List.mem_map.1 member
    exact isClean_blanking (hasEdges_anyPhrase phrases)

section Removed

variable {phrase : Text}

/-- Whether a stretch of a phrase is gone from its keywords: all words of the keywords come, in
order, from around it. -/
def IsRemoved (stretch : Stretch phrase) : Prop :=
  (wordTexts (read phrase)).Sublist (wordTexts stretch.before ++ wordTexts stretch.after)

theorem wordTexts_read (kept : collapse (strip phrase) ≠ []) :
    wordTexts (read phrase) = wordTexts (strip phrase) := by
  rw [read, if_pos (by simpa using kept), wordTexts, wordRuns_collapse, wordTexts]

/-- A stretch but for what holds no words. -/
structure Core (stretch : Stretch phrase) where
  /-- What comes before. -/
  head : Text
  /-- What is left of the stretch. -/
  body : Text
  /-- What comes after. -/
  tail : Text
  /-- Together they are the stretch. -/
  split : stretch.body = head ++ (body ++ tail)
  /-- What comes before holds no words. -/
  wordlessHead : IsWordless head
  /-- What comes after holds no words. -/
  wordlessTail : IsWordless tail
  /-- There is something left. -/
  nonempty : body ≠ []

variable {stretch : Stretch phrase}

/-- A stretch has the core that it has in folded case. -/
theorem exists_core
    {head body tail : Text}
    (whole : folded stretch.body = head ++ (body ++ tail))
    (wordlessHead : IsWordless head)
    (wordlessTail : IsWordless tail)
    (nonempty : body ≠ []) :
    ∃ core : Core stretch, folded core.head = head ∧ folded core.body = body ∧
      folded core.tail = tail := by
  have wordless : ∀ {text : Text}, IsWordless (folded text) → IsWordless text := by
    intro text all c member
    rw [← isWord_foldCase]
    exact all _ (List.mem_map_of_mem member)
  obtain ⟨front, back, split, rfl, rest⟩ := folded_eq_append_iff.1 whole
  obtain ⟨middle, last, rfl, rfl, rfl⟩ := folded_eq_append_iff.1 rest
  refine ⟨⟨front, middle, last, split, wordless wordlessHead, wordless wordlessTail, ?_⟩, rfl, rfl,
    rfl⟩
  rintro rfl
  exact nonempty rfl

/-- The text before the core of a stretch. -/
def Core.before (core : Core stretch) : Text :=
  stretch.before ++ core.head

/-- The text after the core of a stretch. -/
def Core.after (core : Core stretch) : Text :=
  core.tail ++ stretch.after

theorem Core.whole (core : Core stretch) : core.before ++ (core.body ++ core.after) = phrase :=
  (stretch.part core.split).whole

theorem Core.wordTexts_before (core : Core stretch) :
    wordTexts core.before = wordTexts stretch.before := by
  rw [before, wordTexts_append (.inr core.wordlessHead.startsWithWord),
    wordTexts_of_isWordless core.wordlessHead, List.append_nil]

theorem Core.wordTexts_after (core : Core stretch) :
    wordTexts core.after = wordTexts stretch.after := by
  rw [after, wordTexts_append (.inl core.wordlessTail.reverse.startsWithWord),
    wordTexts_of_isWordless core.wordlessTail, List.nil_append]

/-- How an occurrence of one of the replacements for figures comes to meet the core of a stretch:
the replacements before pass it over. -/
structure Encounter (core : Core stretch) where
  /-- The replacements before. -/
  earlier : List Pass
  /-- The replacement. -/
  pass : Pass
  /-- The replacements after. -/
  later : List Pass
  /-- Together they are the replacements for figures. -/
  passes : figurePasses = earlier ++ pass :: later
  /-- The text before the core by then. -/
  before : Text
  /-- The text after the core by then. -/
  after : Text
  /-- The replacements before pass the core over. -/
  stands : StandsThrough core.body earlier core.before core.after before after
  /-- The occurrence. -/
  found : Match
  /-- The occurrence is found in the text by then. -/
  member : found ∈ pass.pattern.findAll (before ++ (core.body ++ after))
  /-- It has something in common with the core. -/
  meets : found.span.meets (Stretch.between before core.body after).span = true

namespace Encounter

variable {core : Core stretch}

/-- Whether the occurrence takes in the whole core. -/
def Covers (encounter : Encounter core) : Prop :=
  encounter.found.span.start ≤
      (Stretch.between encounter.before core.body encounter.after).span.start ∧
    (Stretch.between encounter.before core.body encounter.after).span.stop ≤
      encounter.found.span.stop

theorem pass_mem (encounter : Encounter core) : encounter.pass ∈ figurePasses := by
  rw [encounter.passes]
  exact List.mem_append_right _ List.mem_cons_self

/-- Around the core, words have only been left out by then. -/
theorem thins (encounter : Encounter core) :
    Thins core.before core.after encounter.before encounter.after := by
  refine encounter.stands.thins fun pass known => isClean_of_mem_figurePasses ?_
  rw [encounter.passes]
  exact List.mem_append_left _ known

/-- A stretch within what is taken out leaves the keywords. -/
theorem isRemoved
    (encounter : Encounter core)
    (kept : collapse (strip phrase) ≠ [])
    (covers : encounter.Covers)
    (blank : encounter.pass.residue encounter.found = [' ']) :
    IsRemoved stretch := by
  have passes : figurePasses ++ phrasePasses =
      encounter.earlier ++ encounter.pass :: (encounter.later ++ phrasePasses) := by
    rw [encounter.passes, List.append_assoc, List.cons_append]
  have clean : ∀ pass ∈ encounter.earlier ++ encounter.pass :: (encounter.later ++ phrasePasses),
      pass.IsClean := by
    rw [← passes]
    exact fun _ => isClean_of_mem
  have words := wordTexts_runAll_of_covers clean encounter.stands encounter.member covers.1 covers.2
    blank
  rwa [← passes, core.whole, core.wordTexts_before, core.wordTexts_after, ← strip_eq_runAll,
    ← wordTexts_read kept] at words

end Encounter

/-- Whether a pattern takes a text wherever no word goes on into it or out of it. -/
def TakesAlone (form : Pattern) (text : Text) : Prop :=
  ∀ {before after : Text}, Apart before text → Apart text.reverse after →
    form.Takes before text after

/-- Without regard to case, a pattern takes what it takes between words in folded case. -/
theorem TakesAlone.takes_ignoreCase
    {form : Pattern}
    {before body after : Text}
    (takes : TakesAlone form (folded body))
    (written : form.isFolded = true)
    (opens : Apart before body)
    (closes : Apart body.reverse after) :
    form.ignoreCase.Takes before body after := by
  apply (Pattern.takes_ignoreCase written).2
  apply takes (apart_folded_iff.2 opens)
  rw [← folded_reverse]
  exact apart_folded_iff.2 closes

/-- A figure that one of the replacements takes is met by it or by one before. -/
theorem nonempty_encounter
    {form : Pattern}
    {earlier later : List Pass}
    {own : Pass}
    (core : Core stretch)
    (passes : figurePasses = earlier ++ own :: later)
    (known : own.pattern = form.ignoreCase)
    (written : form.isFolded = true)
    (visible : own.pattern.isVisible = true)
    (takes : TakesAlone form (folded core.body))
    (opens : Apart core.before.reverse core.body)
    (closes : Apart core.body.reverse core.after) :
    ∃ encounter : Encounter core, encounter.pass ∈ earlier ++ [own] := by
  rcases standsThrough_or_meets (earlier ++ [own]) core.nonempty core.before core.after with
    ⟨before, after, stands⟩ |
      ⟨before, pass, after, cut, before', after', stands, found, member, meets⟩
  · -- The replacement itself would pass over what its pattern takes.
    obtain ⟨before', after', stands, passed⟩ := stands.exists_last
    have thins := stands.thins fun pass member => isClean_of_mem_figurePasses (by
      rw [passes]
      exact List.mem_append_left _ member)
    obtain ⟨opens, closes⟩ := thins.apart opens closes
    have taken : own.pattern.Takes before'.reverse core.body after' := by
      rw [known]
      exact takes.takes_ignoreCase written opens closes
    obtain ⟨found, here⟩ := exists_matchAt? visible taken
    rw [passed.matchAt?_eq_none core.nonempty] at here
    cases here
  · have here : pass ∈ earlier ++ [own] := by
      rw [cut]
      exact List.mem_append_right _ List.mem_cons_self
    have passes : figurePasses = before ++ pass :: (after ++ later) := by
      rw [passes, ← List.singleton_append, ← List.append_assoc, cut]
      simp
    exact ⟨⟨before, pass, after ++ later, passes, before', after', stands, found, member, meets⟩,
      here⟩

end Removed

end Keywords
end SearchPhrase
