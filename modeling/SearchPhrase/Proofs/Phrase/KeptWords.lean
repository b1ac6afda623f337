import SearchPhrase.Proofs.Phrase.Removals

/-!
# The words of the keywords

The words of the keywords are words of the phrase, in their order and as they are written there.  A
word that is left out is one that the keywords may do without, and no brand of electronics is.
-/

namespace SearchPhrase
namespace Keywords

open Pattern Text

/-- Blanking out patterns one after another leaves out words that may go if each of them does. -/
theorem remains_foldl_blankOut
    {patterns : List Pattern}
    (each : ∀ pattern ∈ patterns, ∀ text,
      WordRun.Remains MayGo (wordRuns (blankOut text pattern)) (wordRuns text))
    (text : Text) :
    WordRun.Remains MayGo (wordRuns (patterns.foldl blankOut text)) (wordRuns text) := by
  induction patterns generalizing text with
  | nil => exact .refl _
  | cons pattern patterns ih =>
      have first := each pattern List.mem_cons_self text
      have others := ih (fun other member => each other (List.mem_cons_of_mem _ member))
        (blankOut text pattern)
      exact others.trans isSteady_mayGo first

theorem remains_blankOut_priceExpressions
    {pattern : Pattern}
    (known : pattern ∈ priceExpressions)
    (text : Text) :
    WordRun.Remains MayGo (wordRuns (blankOut text pattern)) (wordRuns text) := by
  obtain ⟨form, member, rfl⟩ := List.mem_map.1 known
  have written : ∀ form ∈ [limitExpression, betweenExpression, currencyRange, scaledRange],
      form.isFolded = true := by
    decide
  refine remains_replace (written form member) ?_ (fun _ => .inr rfl) text
  simp only [List.mem_cons, List.not_mem_nil, or_false] at member
  rcases member with rfl | rfl | rfl | rfl
  · exact takesSpare_limitExpression
  · exact takesSpare_betweenExpression
  · exact takesSpare_currencyRange
  · exact takesSpare_scaledRange

theorem remains_plainRange (text : Text) :
    WordRun.Remains MayGo (wordRuns (plainRange.replace rangeResidue text)) (wordRuns text) := by
  have form : plainRange = plainForm.ignoreCase := rfl
  rw [form]
  refine remains_replace (by decide) takesSpare_plainForm (fun found => ?_) text
  rw [rangeResidue]
  split
  · exact .inr rfl
  · exact .inl rfl

theorem remains_blankOut_anyPhrase
    {phrases : List String}
    (listed : phrases ⊆ listedPhrases)
    (text : Text) :
    WordRun.Remains MayGo (wordRuns (blankOut text (anyPhrase phrases))) (wordRuns text) :=
  remains_replace (isFolded_phrases listed) (takesSpare_phrases listed) (fun _ => .inr rfl) text

theorem remains_blankOut_phraseGroups
    {pattern : Pattern}
    (known : pattern ∈ phraseGroups)
    (text : Text) :
    WordRun.Remains MayGo (wordRuns (blankOut text pattern)) (wordRuns text) := by
  simp only [phraseGroups, List.mem_cons, List.not_mem_nil, or_false] at known
  rcases known with rfl | rfl | rfl | rfl
  all_goals
    apply remains_blankOut_anyPhrase
    intro phrase member
    simp only [listedPhrases, List.mem_append, member, true_or, or_true]

/-- What is taken out of a phrase are words that may go. -/
theorem remains_strip (phrase : Text) :
    WordRun.Remains MayGo (wordRuns (strip phrase)) (wordRuns phrase) := by
  have prices := remains_foldl_blankOut (fun _ => remains_blankOut_priceExpressions) phrase
  have ranges := remains_plainRange (priceExpressions.foldl blankOut phrase)
  have phrases := remains_foldl_blankOut (fun _ => remains_blankOut_phraseGroups)
    (plainRange.replace rangeResidue (priceExpressions.foldl blankOut phrase))
  exact (phrases.trans isSteady_mayGo ranges).trans isSteady_mayGo prices

/-- Whether a word is a brand of electronics, in either case. -/
def isBrandWord (word : Text) : Bool :=
  Maker.electronicsBrands.any fun brand => brand.toList == folded word

/-- No brand of electronics may go. -/
theorem isBrandWord_of_mayGo {run : WordRun} (gone : MayGo run) : isBrandWord run.text = false := by
  have stays : ∀ brand ∈ Maker.electronicsBrands,
      (∀ c ∈ brand.toList, Unicode.isWordDigit c = false) ∧
        brand.toList ∉ listedWords ∧ brand.toList ∉ scaleWords := by
    decide +kernel
  apply Bool.eq_false_iff.2
  intro isBrand
  obtain ⟨brand, known, same⟩ := List.any_eq_true.1 isBrand
  obtain ⟨noDigit, notListed, notScale⟩ := stays brand known
  rw [beq_iff_eq.1 same] at noDigit notListed notScale
  rcases gone with (⟨c, member, digit⟩ | listed) | ⟨-, scale⟩
  · rw [noDigit c member] at digit
    cases digit
  · exact notListed listed
  · exact notScale scale

/-- The keywords keep words of a phrase as they are and in their order.  The words that they leave
out are some that may go, and every brand of electronics is kept. -/
theorem remains_read (phrase : Text) :
    WordRun.Remains MayGo (wordRuns (read phrase)) (wordRuns phrase) ∧
      ((wordRuns (read phrase)).map WordRun.text).Sublist ((wordRuns phrase).map WordRun.text) ∧
      ((wordRuns (read phrase)).map WordRun.text).filter isBrandWord =
        ((wordRuns phrase).map WordRun.text).filter isBrandWord := by
  have remains : WordRun.Remains MayGo (wordRuns (read phrase)) (wordRuns phrase) := by
    have kept := remains_strip phrase
    rw [← wordRuns_collapse] at kept
    rw [read]
    split
    · exact kept
    · next nothing =>
        split
        · exact .refl _
        · have none : collapse (strip phrase) = [] := by simpa using nothing
          rw [none] at kept
          exact kept
  exact ⟨remains, remains.sublist, remains.filter_eq fun _ => isBrandWord_of_mayGo⟩

/-- A word may be lost that holds no digit and is on none of the lists. -/
theorem exists_lost_word :
    ∃ run ∈ wordRuns "cars under 5,k".toList,
      run.text ∉ (wordRuns (read "cars under 5,k".toList)).map WordRun.text ∧
        ¬IsFigureOrListed run.folded := by
  refine ⟨⟨['k'], true⟩, by decide +kernel, by decide +kernel, ?_⟩
  rintro (⟨c, member, digit⟩ | listed)
  · revert c
    decide +kernel
  · revert listed
    decide +kernel

end Keywords
end SearchPhrase
