import SearchPhrase.Interpretation
import SearchPhrase.Proofs.Pattern.Recased
import SearchPhrase.Proofs.Phrase.FigurePasses
import SearchPhrase.Proofs.Phrase.PlainRanges

/-!
# Phrases in another case

The keywords of a phrase change their case along with the phrase, and nothing else: everything is
taken out by patterns that tell no case apart, and what is asked of a range of plain numbers is
asked of digits, points and commas.  The other filters are read from the phrase in lower case, so
phrases that differ in letter case alone have the same filters and the same summary.
-/

namespace SearchPhrase

open Unicode

variable {recase : Char → Char}

/-- A character to which nothing else folds is told apart in either case. -/
theorem IsRecasing.beq_mark
    {mark : Char}
    (keeps : IsRecasing recase)
    (alone : ∀ c, (CharClass.foldCase c == mark) = (c == mark))
    (c : Char) :
    (recase c == mark) = (c == mark) :=
  @IsRecasing.apply recase Bool (· == mark) keeps alone c

/-- A blank has no case. -/
theorem IsRecasing.blank (keeps : IsRecasing recase) : recase ' ' = ' ' := by
  have alone : ∀ c, (CharClass.foldCase c == ' ') = (c == ' ') :=
    @CharClass.apply_foldCase Bool (· == ' ') (by decide) (by decide) (by decide)
  exact beq_iff_eq.1 (keeps.beq_mark alone ' ')

namespace Text

theorem isBlank_map (keeps : IsRecasing recase) (text : Text) :
    isBlank (text.map recase) = isBlank text := by
  have same : isWhiteSpace ∘ recase = isWhiteSpace := funext (keeps.apply isWhiteSpace_foldCase)
  rw [isBlank, List.all_map, same, isBlank]

theorem startsWord_map (keeps : IsRecasing recase) (text : Text) :
    startsWord (text.map recase) = startsWord text := by
  cases text with
  | nil => rfl
  | cons c rest => exact congrArg (!·) (keeps.apply isWhiteSpace_foldCase c)

theorem consFirst_map (c : Char) (words : List Text) :
    consFirst (recase c) (words.map (List.map recase)) =
      (consFirst c words).map (List.map recase) := by
  cases words <;> rfl

/-- A text has the same words in another case. -/
theorem words_map (keeps : IsRecasing recase) (text : Text) :
    words (text.map recase) = (words text).map (List.map recase) := by
  induction text with
  | nil => rfl
  | cons c rest ih =>
      rw [List.map_cons, words, words, keeps.apply isWhiteSpace_foldCase, startsWord_map keeps, ih,
        consFirst_map]
      split
      · rfl
      · split <;> rfl

theorem map_intercalate_blank (keeps : IsRecasing recase) (parts : List Text) :
    (List.intercalate [' '] parts).map recase =
      List.intercalate [' '] (parts.map (List.map recase)) := by
  induction parts with
  | nil => rfl
  | cons part parts ih =>
      cases parts with
      | nil => simp
      | cons next parts =>
          have between : [' '].map recase = [' '] := congrArg ([·]) keeps.blank
          rw [List.intercalate_cons_cons, List.map_append, List.map_append, ih, between]
          exact List.intercalate_cons_cons.symm

theorem collapse_map (keeps : IsRecasing recase) (text : Text) :
    collapse (text.map recase) = (collapse text).map recase := by
  rw [collapse, words_map keeps, ← map_intercalate_blank keeps, collapse]

end Text

namespace Figure

/-- A number is the same in another case. -/
theorem IsNumber.map_eq_self
    {digits : Text}
    (isNumber : IsNumber digits)
    (keeps : IsRecasing recase) :
    digits.map recase = digits := by
  have folds : ∀ c, inNumber (CharClass.foldCase c) = inNumber c :=
    CharClass.apply_foldCase (by decide) (by decide) (by decide)
  have stays : ∀ c ∈ digits, recase c = c := by
    intro c member
    have known := inNumber_of_mem isNumber member
    have own : CharClass.foldCase c = c := foldCase_eq_self (by rwa [folds])
    have other : CharClass.foldCase (recase c) = recase c :=
      foldCase_eq_self (by rwa [keeps c, folds])
    rw [← other, keeps c, own]
  exact (List.map_congr_left stays).trans (List.map_id' digits)

end Figure

theorem Match.beginsToken_recased (keeps : IsRecasing recase) (found : Match) :
    (found.recased recase).beginsToken = found.beginsToken := by
  have letter : ∀ c, isAlphanumeric (CharClass.foldCase c) = isAlphanumeric c :=
    CharClass.apply_foldCase (by decide) (by decide) (by decide)
  have point : ∀ c, (CharClass.foldCase c == '.') = (c == '.') :=
    @CharClass.apply_foldCase Bool (· == '.') (by decide) (by decide) (by decide)
  have comma : ∀ c, (CharClass.foldCase c == ',') = (c == ',') :=
    @CharClass.apply_foldCase Bool (· == ',') (by decide) (by decide) (by decide)
  unfold beginsToken recased
  cases found.before with
  | nil => rfl
  | cons c rest =>
      simp only [List.map_cons]
      rw [keeps.apply letter, keeps.beq_mark point, keeps.beq_mark comma]

namespace Keywords

open Pattern Text

/-- Two plain numbers are a price range in whichever case they are written. -/
theorem isPriceRange_recased
    {text : Text}
    {found : Match}
    (keeps : IsRecasing recase)
    (member : found ∈ plainRange.findAll text) :
    isPriceRange (found.recased recase) = isPriceRange found := by
  obtain ⟨range, -, -, -, -, -, -, -, left, right⟩ := exists_rangeText_of_mem member
  rw [isPriceRange, isPriceRange, found.beginsToken_recased keeps, found.slot?_recased,
    found.slot?_recased, found.slot?_recased, left, right, Option.map_some, Option.map_some,
    range.first.isNumber.map_eq_self keeps, range.second.isNumber.map_eq_self keeps]
  cases found.slot? .unit <;> rfl

theorem residue_recased
    {pass : Pass}
    {text : Text}
    {found : Match}
    (known : pass ∈ figurePasses ++ phrasePasses)
    (keeps : IsRecasing recase)
    (member : found ∈ pass.pattern.findAll text) :
    pass.residue (found.recased recase) = (pass.residue found).map recase := by
  have forms : pass = plainRanges ∨ ∃ pattern, pass = blanking pattern := by
    simp only [figurePasses, phrasePasses, List.mem_append, List.mem_map, List.mem_singleton]
      at known
    rcases known with (⟨pattern, -, rfl⟩ | rfl) | ⟨pattern, -, rfl⟩
    · exact .inr ⟨pattern, rfl⟩
    · exact .inl rfl
    · exact .inr ⟨pattern, rfl⟩
  have blank : [' '] = [' '].map recase := congrArg ([·]) keeps.blank.symm
  rcases forms with rfl | ⟨pattern, rfl⟩
  · change rangeResidue (found.recased recase) = (rangeResidue found).map recase
    rw [rangeResidue, isPriceRange_recased keeps member, rangeResidue]
    split
    · exact blank
    · rfl
  · exact blank

/-- Everything that is taken out is found without regard to case. -/
theorem exists_form_of_mem {pass : Pass} (known : pass ∈ figurePasses ++ phrasePasses) :
    ∃ form : Pattern, pass.pattern = form.ignoreCase ∧ form.isFolded = true := by
  have forms : ∀ form ∈ [limitExpression, betweenExpression, currencyRange, scaledRange, plainForm],
      form.isFolded = true := by
    decide
  rcases List.mem_append.1 known with known | known
  · rcases List.mem_append.1 known with known | known
    · obtain ⟨_, expression, rfl⟩ := List.mem_map.1 known
      obtain ⟨form, member, rfl⟩ := List.mem_map.1 expression
      exact ⟨form, rfl, forms form (List.mem_append_left [plainForm] member)⟩
    · obtain rfl := List.mem_singleton.1 known
      exact ⟨plainForm, rfl, forms plainForm (by simp)⟩
  · obtain ⟨_, group, rfl⟩ := List.mem_map.1 known
    rw [phraseGroups_eq] at group
    obtain ⟨list, member, rfl⟩ := List.mem_map.1 group
    exact ⟨_, rfl, isFolded_phrases (subset_listedPhrases member)⟩

/-- What is left of a phrase changes its case along with the phrase. -/
theorem strip_map (keeps : IsRecasing recase) (phrase : Text) :
    strip (phrase.map recase) = (strip phrase).map recase := by
  rw [strip_eq_runAll, strip_eq_runAll]
  -- The induction is on what is left to take out of the phrase by then.
  suffices each : ∀ passes ⊆ figurePasses ++ phrasePasses,
      Pass.runAll passes (phrase.map recase) = (Pass.runAll passes phrase).map recase from
    each _ (List.Subset.refl _)
  intro passes known
  induction passes generalizing phrase with
  | nil => rfl
  | cons pass passes ih =>
      have first := known List.mem_cons_self
      obtain ⟨form, same, written⟩ := exists_form_of_mem first
      have step : pass.run (phrase.map recase) = (pass.run phrase).map recase := by
        rw [Pass.run, Pass.run, same]
        refine replace_recased keeps written fun found member => ?_
        rw [← same] at member
        exact residue_recased first keeps member
      have others := ih (pass.run phrase) fun _ member => known (List.mem_cons_of_mem _ member)
      rw [← step] at others
      exact others

/-- The keywords of a phrase change their case along with the phrase. -/
theorem read_map (keeps : IsRecasing recase) (phrase : Text) :
    read (phrase.map recase) = (read phrase).map recase := by
  have everything : recase '*' = '*' := by
    have alone : ∀ c, (CharClass.foldCase c == '*') = (c == '*') :=
      @CharClass.apply_foldCase Bool (· == '*') (by decide) (by decide) (by decide)
    exact beq_iff_eq.1 (keeps.beq_mark alone '*')
  have nothing :
      ((collapse (strip phrase)).map recase).isEmpty = (collapse (strip phrase)).isEmpty := by
    cases collapse (strip phrase) <;> rfl
  rw [read, strip_map keeps, collapse_map keeps, nothing, isBlank_map keeps, read]
  split
  · rfl
  · split
    · rfl
    · rw [matchAll, List.map_singleton, everything]

end Keywords

namespace Interpretation

/-- The summary of a record does not tell its query. -/
theorem summary?_eq_of_query
    (record : FilterRecord)
    (query : String) :
    FilterRecord.summary? { record with query := query } = record.summary? :=
  rfl

/-- Keywords of a phrase in small letters are those of the phrase, in small letters.  Phrases in
ASCII that differ in nothing but letter case have the same filters but for the query, the same
summary, and queries that differ in nothing but letter case. -/
theorem letterCase_free :
    (∀ phrase : Text,
      Keywords.read (phrase.map Char.toLower) = (Keywords.read phrase).map Char.toLower) ∧
    ∀ first second : String,
      (∀ c ∈ first.toList, c.toNat < 128) →
      (∀ c ∈ second.toList, c.toNat < 128) →
      first.toList.map Char.toLower = second.toList.map Char.toLower →
      { (ofPhrase first).filters with query := (ofPhrase second).filters.query } =
          (ofPhrase second).filters ∧
        (ofPhrase first).interpretedAs = (ofPhrase second).interpretedAs ∧
        (ofPhrase first).filters.query.toList.map Char.toLower =
          (ofPhrase second).filters.query.toList.map Char.toLower := by
  have lowered : ∀ phrase : Text,
      Keywords.read (phrase.map Char.toLower) = (Keywords.read phrase).map Char.toLower :=
    Keywords.read_map isRecasing_toLower
  refine ⟨lowered, fun first second ascii ascii' same => ?_⟩
  have small : lowercase first.toList = lowercase second.toList := by
    rw [lowercase_ascii ascii, lowercase_ascii ascii', same]
  have filters : { (ofPhrase first).filters with query := (ofPhrase second).filters.query } =
      (ofPhrase second).filters := by
    simp only [ofPhrase, filtersOf, small]
  have query (phrase : String) :
      (ofPhrase phrase).filters.query.toList = Keywords.read phrase.toList :=
    String.toList_ofList
  refine ⟨filters, ?_, ?_⟩
  · have summary := congrArg FilterRecord.summary? filters
    rwa [summary?_eq_of_query] at summary
  · rw [query, query, ← lowered, same, lowered]

/-- A phrase in capitals and small letters. -/
theorem letterCase_free_toyota :
    (ofPhrase "Find me a TOYOTA Camry Under $20K").interpretedAs =
        (ofPhrase "find ME a toyota cAMRY under $20k").interpretedAs :=
  (letterCase_free.2 "Find me a TOYOTA Camry Under $20K" "find ME a toyota cAMRY under $20k"
    (by decide) (by decide) (by decide)).2.1

end Interpretation
end SearchPhrase
