import SearchPhrase.Proofs.Pattern.Passes

/-!
# What a replacement takes

Where everything that a pattern takes holds a word, each occurrence that is replaced by a blank
costs the text a word at least.  A text therefore has fewer words after a replacement, or it is the
same text.  A character that the pattern accepts nowhere is never taken.
-/

namespace SearchPhrase

open Cursor Text Unicode

namespace Text

/-- A word begins in a text that holds a character of one, unless it goes on from before. -/
theorem wordRunsAfter_ne_nil
    {before text : Text}
    {c : Char}
    (fresh : startsWithWord before = false)
    (member : c ∈ text)
    (word : isWord c = true) :
    wordRunsAfter before text ≠ [] := by
  induction text generalizing before with
  | nil => exact absurd member List.not_mem_nil
  | cons d rest ih =>
      cases starts : isWord d with
      | true =>
          rw [wordRunsAfter_cons_of_begins starts fresh]
          exact List.cons_ne_nil _ _
      | false =>
          rw [wordRunsAfter_cons_of_not_isWord starts]
          have later : c ∈ rest := by
            rcases List.mem_cons.1 member with rfl | later
            · simp [word] at starts
            · exact later
          exact ih starts later

theorem wordTexts_ne_nil
    {text : Text}
    {c : Char}
    (member : c ∈ text)
    (word : isWord c = true) :
    wordTexts text ≠ [] := by
  intro none
  exact wordRunsAfter_ne_nil rfl member word (List.map_eq_nil_iff.1 none)

end Text

/-- Whether every character that a class accepts belongs to a word, as far as its form tells. -/
def CharClass.holdsWord : CharClass → Bool
  | only c => isWord c
  | folded c => isWord c
  | digit => true
  | space => false
  | either left right => left.holdsWord && right.holdsWord

theorem CharClass.isWord_of_accepts
    {cls : CharClass}
    {c : Char}
    (holds : cls.holdsWord = true)
    (accepted : cls.accepts c = true) :
    isWord c = true := by
  induction cls with
  | only d =>
      rw [← beq_iff_eq.1 accepted]
      exact holds
  | folded d =>
      rw [← isWord_foldCase, ← beq_iff_eq.1 accepted, isWord_foldCase]
      exact holds
  | digit => exact isWord_of_isWordDigit accepted
  | space => exact absurd holds Bool.false_ne_true
  | either left right ihLeft ihRight =>
      rw [holdsWord, Bool.and_eq_true] at holds
      rw [accepts, Bool.or_eq_true] at accepted
      exact accepted.elim (ihLeft holds.1) (ihRight holds.2)

namespace Pattern

/-- Whether every text that a pattern takes holds a character of a word, as its form tells. -/
def holdsWord : Pattern → Bool
  | never => true
  | empty => false
  | char cls => cls.holdsWord
  | seq first second => first.holdsWord || second.holdsWord
  | alt preferred fallback => preferred.holdsWord && fallback.holdsWord
  | run _ => false
  | boundary => false
  | capture _ body => body.holdsWord

theorem holdsWord_literal {phrase : String} (starts : startsWithWord phrase.toList = true) :
    (literal phrase).holdsWord = true := by
  unfold literal
  cases shape : phrase.toList with
  | nil =>
      rw [shape] at starts
      cases starts
  | cons c rest =>
      rw [shape] at starts
      exact Bool.or_eq_true_iff.2 (.inl starts)

theorem holdsWord_anyOf
    {patterns : List Pattern}
    (holds : ∀ pattern ∈ patterns, pattern.holdsWord = true) :
    (anyOf patterns).holdsWord = true := by
  induction patterns with
  | nil => rfl
  | cons pattern patterns ih =>
      have first := holds pattern List.mem_cons_self
      have others := ih fun other member => holds other (List.mem_cons_of_mem _ member)
      cases patterns with
      | nil => exact first
      | cons next patterns => exact Bool.and_eq_true_iff.2 ⟨first, others⟩

theorem holdsWord_bounded (body : Pattern) : (bounded body).holdsWord = body.holdsWord :=
  Bool.or_false _

theorem CharClass.holdsWord_ignoreCase (cls : CharClass) :
    cls.ignoreCase.holdsWord = cls.holdsWord := by
  induction cls with
  | either left right ihLeft ihRight =>
      rw [CharClass.ignoreCase, CharClass.holdsWord, CharClass.holdsWord, ihLeft, ihRight]
  | _ => rfl

theorem holdsWord_ignoreCase (pattern : Pattern) :
    pattern.ignoreCase.holdsWord = pattern.holdsWord := by
  induction pattern with
  | char cls => exact CharClass.holdsWord_ignoreCase cls
  | seq first second ihFirst ihSecond => rw [ignoreCase, holdsWord, holdsWord, ihFirst, ihSecond]
  | alt preferred fallback ihPreferred ihFallback =>
      rw [ignoreCase, holdsWord, holdsWord, ihPreferred, ihFallback]
  | capture slot body ih => exact ih
  | _ => rfl

theorem exists_isWord_of_takes
    {pattern : Pattern}
    {before text after : Text}
    (holds : pattern.holdsWord = true)
    (takes : pattern.Takes before text after) :
    ∃ c ∈ text, isWord c = true := by
  induction pattern generalizing before text after with
  | never => exact takes.elim
  | empty => exact absurd holds Bool.false_ne_true
  | char cls =>
      obtain ⟨c, rfl, accepted⟩ := takes
      exact ⟨c, List.mem_singleton.2 rfl, CharClass.isWord_of_accepts holds accepted⟩
  | seq first second ihFirst ihSecond =>
      obtain ⟨head, tail, rfl, takesHead, takesTail⟩ := takes
      rw [holdsWord, Bool.or_eq_true] at holds
      rcases holds with holds | holds
      · obtain ⟨c, member, word⟩ := ihFirst holds takesHead
        exact ⟨c, List.mem_append_left tail member, word⟩
      · obtain ⟨c, member, word⟩ := ihSecond holds takesTail
        exact ⟨c, List.mem_append_right head member, word⟩
  | alt preferred fallback ihPreferred ihFallback =>
      rw [holdsWord, Bool.and_eq_true] at holds
      exact takes.elim (ihPreferred holds.1) (ihFallback holds.2)
  | run cls => exact absurd holds Bool.false_ne_true
  | boundary => exact absurd holds Bool.false_ne_true
  | capture slot body ih => exact ih holds takes

/-- Whether no class of a pattern accepts a character. -/
def excludes (c : Char) : Pattern → Bool
  | char cls => !cls.accepts c
  | seq first second => first.excludes c && second.excludes c
  | alt preferred fallback => preferred.excludes c && fallback.excludes c
  | run cls => !cls.accepts c
  | capture _ body => body.excludes c
  | _ => true

theorem not_mem_of_takes
    {pattern : Pattern}
    {c : Char}
    {before text after : Text}
    (excluded : pattern.excludes c = true)
    (takes : pattern.Takes before text after) :
    c ∉ text := by
  induction pattern generalizing before text after with
  | never => exact takes.elim
  | empty =>
      obtain rfl : text = [] := takes
      exact List.not_mem_nil
  | char cls =>
      obtain ⟨d, rfl, accepted⟩ := takes
      rintro member
      obtain rfl := List.mem_singleton.1 member
      simp [excludes, accepted] at excluded
  | seq first second ihFirst ihSecond =>
      obtain ⟨head, tail, rfl, takesHead, takesTail⟩ := takes
      rw [excludes, Bool.and_eq_true] at excluded
      intro member
      rcases List.mem_append.1 member with member | member
      · exact ihFirst excluded.1 takesHead member
      · exact ihSecond excluded.2 takesTail member
  | alt preferred fallback ihPreferred ihFallback =>
      rw [excludes, Bool.and_eq_true] at excluded
      exact takes.elim (ihPreferred excluded.1) (ihFallback excluded.2)
  | run cls =>
      intro member
      simp [excludes, takes c member] at excluded
  | boundary =>
      obtain ⟨rfl, -⟩ := takes
      exact List.not_mem_nil
  | capture slot body ih => exact ih excluded takes

end Pattern

namespace Pass

/-- A replacement that leaves a blank for some occurrence leaves fewer words. -/
theorem length_wordTexts_run_lt
    {pass : Pass}
    {text : Text}
    {found : Match}
    (clean : pass.IsClean)
    (holds : pass.pattern.holdsWord = true)
    (member : found ∈ pass.pattern.findAll text)
    (blank : pass.residue found = [' ']) :
    (wordTexts (pass.run text)).length < (wordTexts text).length := by
  have takes := Pattern.takes_of_mem_findAll member
  obtain ⟨whole, -⟩ := Pattern.whole_of_mem_findAll member
  rw [List.append_assoc] at whole
  subst whole
  -- The words of the text are those before the occurrence, of the occurrence, and after it.
  obtain ⟨opens, closes⟩ := clean.edges takes
  have opens : Apart found.before.reverse.reverse (found.text ++ found.after) := by
    rwa [List.reverse_reverse]
  have closes : Apart found.text.reverse found.after := by
    refine @Apart.of_append _ found.before _ [] ?_
    rwa [List.append_nil]
  have words : wordTexts (found.before.reverse ++ (found.text ++ found.after)) =
      wordTexts found.before.reverse ++ (wordTexts found.text ++ wordTexts found.after) := by
    rw [wordTexts_append opens, wordTexts_append closes]
  obtain ⟨c, inside, word⟩ := Pattern.exists_isWord_of_takes holds takes
  have some := List.length_pos_iff.2 (wordTexts_ne_nil inside word)
  have around := (wordTexts_run_of_covers clean member
    (by simp [Match.span, Stretch.span, Stretch.between])
    (by simp [Match.span, Stretch.span, Stretch.between]) blank).length_le
  rw [words]
  simp only [List.length_append] at around ⊢
  omega

/-- A replacement leaves a text as it is, or with fewer words. -/
theorem run_eq_self_or_fewer
    {pass : Pass}
    (clean : pass.IsClean)
    (holds : pass.pattern.holdsWord = true)
    (text : Text) :
    pass.run text = text ∨ (wordTexts (pass.run text)).length < (wordTexts text).length := by
  by_cases kept : ∀ found ∈ pass.pattern.findAll text, pass.residue found = found.text
  · exact .inl (Pattern.replace_eq_self_of_forall kept)
  · obtain ⟨found, member, changed⟩ : ∃ found ∈ pass.pattern.findAll text,
        pass.residue found ≠ found.text := by simpa using kept
    have blank := (clean.each found).resolve_left changed
    exact .inr (length_wordTexts_run_lt clean holds member blank)

/-- Replacements one after another leave a text as it is, or with fewer words. -/
theorem runAll_eq_self_or_fewer
    {passes : List Pass}
    (clean : ∀ pass ∈ passes, pass.IsClean)
    (holds : ∀ pass ∈ passes, pass.pattern.holdsWord = true)
    (text : Text) :
    runAll passes text = text ∨
      (wordTexts (runAll passes text)).length < (wordTexts text).length := by
  induction passes generalizing text with
  | nil => exact .inl rfl
  | cons pass passes ih =>
      have first := run_eq_self_or_fewer (clean pass List.mem_cons_self)
        (holds pass List.mem_cons_self) text
      have others := ih (fun other member => clean other (List.mem_cons_of_mem _ member))
        (fun other member => holds other (List.mem_cons_of_mem _ member)) (pass.run text)
      have step : runAll (pass :: passes) text = runAll passes (pass.run text) := rfl
      rw [step]
      rcases first with same | fewer
      · rwa [same] at others ⊢
      · rcases others with same' | fewer'
        · exact .inr (by rwa [same'])
        · exact .inr (Nat.lt_trans fewer' fewer)

/-- A character that the pattern excludes stays. -/
theorem mem_run
    {pass : Pass}
    {c : Char}
    {text : Text}
    (excluded : pass.pattern.excludes c = true)
    (member : c ∈ text) :
    c ∈ pass.run text := by
  rw [← @Pattern.piecesText_pieces pass.pattern text] at member
  obtain ⟨piece, known, inside⟩ := List.mem_flatMap.1 member
  cases piece with
  | plain d => exact List.mem_flatMap.2 ⟨_, known, inside⟩
  | found occurrence =>
      have takes := Pattern.takes_of_mem_findAll (Pattern.mem_findAll_iff.2 known)
      exact absurd inside (Pattern.not_mem_of_takes excluded takes)

/-- A character that all patterns exclude stays to the end. -/
theorem mem_runAll
    {passes : List Pass}
    {c : Char}
    {text : Text}
    (excluded : ∀ pass ∈ passes, pass.pattern.excludes c = true)
    (member : c ∈ text) :
    c ∈ runAll passes text := by
  induction passes generalizing text with
  | nil => exact member
  | cons pass passes ih =>
      exact ih (fun other known => excluded other (List.mem_cons_of_mem _ known))
        (mem_run (excluded pass List.mem_cons_self) member)

end Pass
end SearchPhrase
