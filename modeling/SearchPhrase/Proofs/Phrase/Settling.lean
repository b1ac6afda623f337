import Mathlib.Logic.Function.Iterate
import SearchPhrase.Proofs.Pattern.Losses
import SearchPhrase.Proofs.Phrase.FigurePasses
import SearchPhrase.Session

/-!
# Keywords of keywords

The keywords of a phrase may themselves be read as a phrase, and so on.  Each time but the first one
either nothing changes or a word is lost, one that has only come together as its white space has.
No more readings than the phrase has words, and one, lead to keywords that are their own keywords,
and a record to one that its own query leads back to.
-/

namespace SearchPhrase

open Text

/-- A step that leaves things as they are, or with a measure that is smaller, comes to rest within
as many steps as the measure tells. -/
theorem exists_iterate_fixed
    {α : Type}
    {step : α → α}
    {measure : α → Nat}
    {Kept : α → Prop}
    (falls : ∀ x, Kept x → step x = x ∨ (Kept (step x) ∧ measure (step x) < measure x))
    {x : α}
    (kept : Kept x) :
    ∃ i ≤ measure x, step (step^[i] x) = step^[i] x := by
  induction size : measure x using Nat.strongRecOn generalizing x with
  | ind size ih =>
      rcases falls x kept with rests | ⟨kept', smaller⟩
      · exact ⟨0, Nat.zero_le _, rests⟩
      · rw [size] at smaller
        obtain ⟨i, bound, rests⟩ := ih _ smaller kept' rfl
        exact ⟨i + 1, by omega, rests⟩

namespace Keywords

/-- Everything that is taken out holds a word. -/
theorem holdsWord_of_mem {pass : Pass} (known : pass ∈ figurePasses ++ phrasePasses) :
    pass.pattern.holdsWord = true := by
  have figures : ∀ pass ∈ figurePasses, pass.pattern.holdsWord = true := by decide
  rcases List.mem_append.1 known with known | known
  · exact figures pass known
  · obtain ⟨pattern, group, rfl⟩ := List.mem_map.1 known
    rw [phraseGroups_eq] at group
    obtain ⟨phrases, listed, rfl⟩ := List.mem_map.1 group
    rw [blanking, Pattern.anyPhrase, Pattern.holdsWord_ignoreCase, Pattern.holdsWord_bounded]
    refine Pattern.holdsWord_anyOf (List.forall_mem_map.2 fun phrase member => ?_)
    have known := subset_listedPhrases listed (Pattern.mem_longestFirst.1 member)
    exact Pattern.holdsWord_literal (isPhrase_of_listed known).starts

/-- Taking everything out leaves a phrase as it is, or with fewer words. -/
theorem strip_eq_self_or_fewer (phrase : Text) :
    strip phrase = phrase ∨ (wordTexts (strip phrase)).length < (wordTexts phrase).length := by
  rw [strip_eq_runAll]
  exact Pass.runAll_eq_self_or_fewer (fun _ => isClean_of_mem) (fun _ => holdsWord_of_mem) phrase

/-- Whether a text has something to it, with a single blank between the words. -/
structure IsTidy (text : Text) : Prop where
  /-- There is something. -/
  nonempty : text ≠ []
  /-- There is no white space to put together. -/
  collapsed : collapse text = text

theorem isTidy_collapse {text : Text} (nonempty : collapse text ≠ []) : IsTidy (collapse text) :=
  ⟨nonempty, collapse_collapse text⟩

theorem IsTidy.isBlank {text : Text} (tidy : IsTidy text) : isBlank text = false := by
  rcases collapse_eq_nil_or_isTrimmed text with ⟨nothing, -⟩ | ⟨-, solid⟩
  · rw [tidy.collapsed] at nothing
    exact absurd nothing tidy.nonempty
  · exact solid

/-- The keywords of a phrase are what is left of it, if anything is. -/
theorem read_of_kept {phrase : Text} (kept : collapse (strip phrase) ≠ []) :
    read phrase = collapse (strip phrase) := by
  rw [read, if_pos (by simpa using kept)]

/-- A phrase of which nothing is left is kept. -/
theorem read_of_nothing
    {phrase : Text}
    (nothing : collapse (strip phrase) = [])
    (solid : isBlank phrase = false) :
    read phrase = phrase := by
  simp [read, nothing, solid]

/-- A tidy text is its own keywords, or its keywords are tidy and fewer. -/
theorem read_of_isTidy {text : Text} (tidy : IsTidy text) :
    read text = text ∨
      (IsTidy (read text) ∧ (wordTexts (read text)).length < (wordTexts text).length) := by
  by_cases kept : collapse (strip text) = []
  · exact .inl (read_of_nothing kept tidy.isBlank)
  rcases strip_eq_self_or_fewer text with same | fewer
  · left
    rw [read_of_kept kept, same, tidy.collapsed]
  · right
    rw [wordTexts_read kept, read_of_kept kept]
    exact ⟨isTidy_collapse kept, fewer⟩

/-- Any phrase is its own keywords, or its keywords are tidy and no more words than there were. -/
theorem read_eq_self_or_isTidy (phrase : Text) :
    read phrase = phrase ∨
      (IsTidy (read phrase) ∧ (wordTexts (read phrase)).length ≤ (wordTexts phrase).length) := by
  by_cases kept : collapse (strip phrase) = []
  · cases blank : isBlank phrase with
    | false => exact .inl (read_of_nothing kept blank)
    | true =>
        have everything : read phrase = matchAll := by simp [read, kept, blank]
        rw [everything]
        exact .inr ⟨⟨by decide, by decide⟩, Nat.zero_le _⟩
  · right
    rw [wordTexts_read kept, read_of_kept kept]
    refine ⟨isTidy_collapse kept, ?_⟩
    rcases strip_eq_self_or_fewer phrase with same | fewer
    · exact Nat.le_of_eq (by rw [same])
    · exact Nat.le_of_lt fewer

/-- Keywords that are read over and over come to rest, after no more readings than there are words,
and one. -/
theorem exists_iterate_read_fixed (phrase : Text) :
    ∃ i ≤ (wordTexts phrase).length + 1, read (read^[i] phrase) = read^[i] phrase := by
  rcases read_eq_self_or_isTidy phrase with rests | ⟨tidy, fewer⟩
  · exact ⟨0, Nat.zero_le _, rests⟩
  · obtain ⟨i, bound, rests⟩ := @exists_iterate_fixed Text read
      (fun text => (wordTexts text).length) IsTidy (fun _ => read_of_isTidy) (read phrase) tidy
    exact ⟨i + 1, by omega, rests⟩

end Keywords

namespace Session

/-- The record that the query of a record leads to. -/
def again (record : FilterRecord) : FilterRecord :=
  after record .reinterpret

theorem again_eq (record : FilterRecord) :
    again record = (Interpretation.ofPhrase record.query).filters :=
  rfl

theorem query_again (record : FilterRecord) :
    (again record).query.toList = Keywords.read record.query.toList := by
  rw [again_eq]
  exact String.toList_ofList

theorem query_iterate_again (i : Nat) (record : FilterRecord) :
    (again^[i] record).query.toList = Keywords.read^[i] record.query.toList := by
  induction i generalizing record with
  | zero => rfl
  | succ i ih => rw [Function.iterate_succ_apply, Function.iterate_succ_apply, ih, query_again]

/-- Once the keywords of a query have come to rest, the record does with the next reading. -/
theorem again_fixed_of_read
    {record : FilterRecord}
    (rests : Keywords.read record.query.toList = record.query.toList) :
    again (again record) = again record := by
  have same : (again record).query = record.query :=
    String.toList_inj.1 (by rw [query_again, rests])
  rw [again_eq, same, ← again_eq]

/-- Keywords come to rest after no more readings than the phrase has words, and one, and a record
does with one reading of its own query more.  One reading need not be enough, even where what is
taken out is all taken out at once: words come together as their white space does. -/
theorem again_settles :
    (∀ phrase : Text, ∃ i ≤ (wordRuns phrase).length + 1,
      Keywords.read (Keywords.read^[i] phrase) = Keywords.read^[i] phrase) ∧
    (∀ record : FilterRecord, ∃ i ≤ (wordRuns record.query.toList).length + 2,
      again (again^[i] record) = again^[i] record) ∧
    ∃ phrase : Text, Keywords.strip (Keywords.strip phrase) = Keywords.strip phrase ∧
      Keywords.read (Keywords.read phrase) ≠ Keywords.read phrase := by
  have settles : ∀ phrase : Text, ∃ i ≤ (wordRuns phrase).length + 1,
      Keywords.read (Keywords.read^[i] phrase) = Keywords.read^[i] phrase := by
    intro phrase
    have length : (wordTexts phrase).length = (wordRuns phrase).length := List.length_map _
    rw [← length]
    exact Keywords.exists_iterate_read_fixed phrase
  refine ⟨settles, fun record => ?_, "alfa  romeo x".toList, by decide +kernel,
    by decide +kernel⟩
  obtain ⟨i, bound, rests⟩ := settles record.query.toList
  refine ⟨i + 1, by omega, ?_⟩
  rw [← query_iterate_again] at rests
  rw [Function.iterate_succ_apply']
  exact again_fixed_of_read rests

end Session
end SearchPhrase
