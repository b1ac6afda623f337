import SearchPhrase.Proofs.Pattern.Passes
import SearchPhrase.Proofs.Phrase.Expressions

/-!
# Expressions that a word opens

A limit begins with a word of its own, and so does an amount between two others.  No such word
begins anywhere else in an expression of these kinds, which holds amounts, units of distance and
connecting words besides.  Two of them that meet therefore begin at the same place.
-/

namespace SearchPhrase

open Cursor Pattern Text Unicode

namespace Figure

/-- The words that open a limit or an amount between two others. -/
def headWords : List String :=
  ["between", "under", "below", "less", "over", "above", "more"]

theorem areWords_headWords : areWords headWords = true := by
  decide

/-- Whether no opening word begins within a text, provided that no word goes on out of it. -/
def IsHeadless (text : Text) : Prop :=
  ∀ ⦃before rest after tail : Text⦄ ⦃name : String⦄, Apart text.reverse after →
    text = before ++ rest → rest ≠ [] → name ∈ headWords → rest ++ after ≠ name.toList ++ tail

/-- Whether a text begins with an opening word and holds no other one. -/
structure IsHeaded (text : Text) : Prop where
  /-- It begins with an opening word. -/
  begins : ∃ name ∈ headWords, ∃ rest, text = name.toList ++ rest
  /-- No other one begins in it. -/
  headless : IsHeadless text.tail

theorem isHeadless_nil : IsHeadless [] := by
  intro before rest _ _ _ _ split nonempty
  exact absurd (List.append_eq_nil_iff.1 split.symm).2 nonempty

section Headless

variable {rest : Text}

/-- What holds no first letter of an opening word may stand before others. -/
theorem IsHeadless.append_of_absent
    {first : Text}
    (others : IsHeadless rest)
    (absent : ∀ c ∈ first, ∀ name ∈ headWords, c ∉ name.toList.head?) :
    IsHeadless (first ++ rest) := by
  intro before part after tail name apart split nonempty known same
  rcases List.append_eq_append_iff.1 split with ⟨later, rfl, whole⟩ | ⟨later, whole, rfl⟩
  · have some : rest ≠ [] := by
      rw [whole]
      exact List.append_ne_nil_of_right_ne_nil _ nonempty
    exact others ((apart_reverse_append_iff some).1 apart) whole nonempty known same
  · cases later with
    | nil =>
        exact @others [] rest after tail name ((apart_reverse_append_iff nonempty).1 apart) rfl
          nonempty known same
    | cons c later =>
        have some := (of_areWords areWords_headWords known).1
        obtain ⟨d, letters, shape⟩ := List.exists_cons_of_ne_nil some
        rw [shape, List.cons_append, List.cons_append, List.cons_append] at same
        obtain ⟨rfl, -⟩ := List.cons.inj same
        exact absent c (by rw [whole]; simp) name known (by rw [shape]; rfl)

/-- A word without an opening word in it may stand before what does not go on with it. -/
theorem IsHeadless.word_append
    {word : Text}
    (others : IsHeadless rest)
    (absent : ∀ name ∈ headWords, ¬name.toList <:+: word)
    (ends : startsWithWord word.reverse = true)
    (ended : startsWithWord rest = false) :
    IsHeadless (word ++ rest) := by
  intro before part after tail name apart split nonempty known same
  rcases List.append_eq_append_iff.1 split with ⟨later, rfl, whole⟩ | ⟨later, rfl, rfl⟩
  · have some : rest ≠ [] := by
      rw [whole]
      exact List.append_ne_nil_of_right_ne_nil _ nonempty
    exact others ((apart_reverse_append_iff some).1 apart) whole nonempty known same
  · -- The opening word would lie within the word, or go on out of it.
    rw [List.append_assoc] at same
    rcases List.append_eq_append_iff.1 same with ⟨beyond, shape, whole⟩ | ⟨beyond, shape, -⟩
    · cases beyond with
      | nil =>
          rw [List.append_nil] at shape
          exact absent name known ⟨before, [], by rw [shape, List.append_nil]⟩
      | cons c beyond =>
          have inWord := (of_areWords areWords_headWords known).2.1 c (by rw [shape]; simp)
          by_cases none : rest = []
          · subst none
            rw [List.append_nil] at apart
            have ended := apart.resolve_left (by rw [ends]; decide)
            rw [List.nil_append] at whole
            rw [whole] at ended
            exact absurd inWord (by simpa [startsWithWord] using ended)
          · rw [← startsWithWord_append none after, whole] at ended
            exact absurd inWord (by simpa [startsWithWord] using ended)
    · exact absent name known ⟨before, beyond, by rw [shape, List.append_assoc]⟩

/-- White space may stand before others. -/
theorem IsHeadless.gap_append
    {gap : Text}
    (others : IsHeadless rest)
    (blank : isBlank gap = true) :
    IsHeadless (gap ++ rest) := by
  have letters : ∀ name ∈ headWords, ∀ c ∈ name.toList.head?, isWhiteSpace c = false := by decide
  refine others.append_of_absent fun c member name known first => ?_
  have space := isBlank_iff.1 blank c member
  simp [letters name known c first] at space

/-- The sign and the number of an amount may stand before others. -/
theorem IsHeadless.figure_append
    (others : IsHeadless rest)
    (sum : Sum) :
    IsHeadless (sum.sign ++ (sum.digits ++ rest)) := by
  have letters : ∀ name ∈ headWords, ∀ c ∈ name.toList.head?,
      isWhiteSpace c = false ∧ isWordDigit c = false ∧ c ≠ '$' ∧ c ≠ ',' ∧ c ≠ '.' := by
    decide
  rw [← List.append_assoc]
  refine others.append_of_absent fun c member name known first => ?_
  obtain ⟨solid, noDigit, noSign, noComma, noPoint⟩ := letters name known c first
  rcases List.mem_append.1 member with member | member
  · rcases sum.isSign with none | ⟨gap, shape, blank⟩
    · rw [none] at member
      exact absurd member List.not_mem_nil
    · rw [shape] at member
      rcases List.mem_cons.1 member with same | member
      · exact noSign same
      · simp [isBlank_iff.1 blank c member] at solid
  · rcases sum.isNumber.mem member with digit | comma | point
    · simp [digit] at noDigit
    · exact noComma comma
    · exact noPoint point

/-- An amount may stand before what does not go on with it. -/
theorem IsHeadless.sum_append
    (others : IsHeadless rest)
    (sum : Sum)
    (ended : startsWithWord rest = false) :
    IsHeadless (sum.text ++ rest) := by
  rw [Sum.text, List.append_assoc, List.append_assoc]
  apply IsHeadless.figure_append
  have short : ∀ letter : Text, letter = ['k'] ∨ letter = ['m'] →
      (∀ name ∈ headWords, ¬name.toList <:+: letter) ∧ startsWithWord letter.reverse = true := by
    rintro _ (rfl | rfl) <;> decide +kernel
  by_cases none : sum.letter = []
  · rwa [none]
  · obtain ⟨absent, ends⟩ := short _ (sum.isLetter.resolve_left none)
    exact others.word_append absent ends ended

/-- An amount may stand last, with or without a unit of distance. -/
theorem isHeadless_sum_append
    {tail : Text}
    (sum : Sum)
    (isTail : IsDistanceTail tail) :
    IsHeadless (sum.text ++ tail) := by
  rcases isTail with rfl | ⟨gap, unit, rfl, blank, known⟩
  · exact isHeadless_nil.sum_append sum rfl
  · have attached : ∀ letter ∈ [[], ['k'], ['m']], ∀ unit ∈ distanceWords,
        (∀ name ∈ headWords, ¬name.toList <:+: letter ++ unit.toList) ∧
          startsWithWord (letter ++ unit.toList).reverse = true := by
      decide +kernel
    by_cases none : gap = []
    · subst none
      obtain ⟨absent, ends⟩ := attached sum.letter (by simpa using sum.isLetter) unit known
      have word := isHeadless_nil.word_append absent ends rfl
      rw [List.append_nil] at word
      rw [Sum.text, List.nil_append, List.append_assoc, List.append_assoc]
      exact word.figure_append sum
    · obtain ⟨absent, ends⟩ := attached [] List.mem_cons_self unit known
      have word := isHeadless_nil.word_append absent ends rfl
      rw [List.nil_append, List.append_nil] at word
      refine (word.gap_append blank).sum_append sum ?_
      exact startsWithWord_gap_append none blank unit.toList

end Headless

/-- An opening word may stand before what does not go on with it. -/
theorem IsHeaded.of_headless
    {name : String}
    {rest : Text}
    (known : name ∈ headWords)
    (others : IsHeadless rest)
    (ended : startsWithWord rest = false) :
    IsHeaded (name.toList ++ rest) := by
  have parts : ∀ name ∈ headWords, (∀ other ∈ headWords, ¬other.toList <:+: name.toList.tail) ∧
      startsWithWord name.toList.tail.reverse = true := by
    decide +kernel
  obtain ⟨absent, ends⟩ := parts name known
  refine ⟨⟨name, known, rest, rfl⟩, ?_⟩
  rw [List.tail_append_of_ne_nil (of_areWords areWords_headWords known).1]
  exact others.word_append absent ends ended

/-- A limit begins with an opening word and holds no other, even with a unit of distance. -/
theorem isHeaded_limit
    {side : Side}
    {tail : Text}
    (limit : LimitText side)
    (isTail : IsDistanceTail tail) :
    IsHeaded (limit.text ++ tail) := by
  have words : side.firstWords ⊆ headWords := by cases side <;> decide
  obtain ⟨_, gap, sum, announces, spaced, blank, close⟩ := limit
  have amount := (isHeadless_sum_append sum isTail).gap_append blank
  have ended := startsWithWord_gap_append spaced blank (sum.text ++ tail)
  cases announces with
  | word known =>
      have headed := IsHeaded.of_headless (words (List.mem_cons_of_mem _ known)) amount ended
      simpa only [LimitText.text, List.append_assoc] using headed
  | @than gap' spaced' blank' =>
      have absent : ∀ name ∈ headWords, ¬name.toList <:+: "than".toList := by decide +kernel
      have than := (amount.word_append absent (by decide) ended).gap_append blank'
      have headed := IsHeaded.of_headless (words List.mem_cons_self) than
        (startsWithWord_gap_append spaced' blank' _)
      simpa only [LimitText.text, List.append_assoc] using headed

/-- An amount between two others begins with an opening word and holds no other. -/
theorem isHeaded_between (range : BetweenText) : IsHeaded range.text := by
  have absent : ∀ name ∈ headWords, ¬name.toList <:+: "and".toList := by decide +kernel
  have amount := isHeadless_sum_append range.second (.inl rfl)
  rw [List.append_nil] at amount
  -- From the second amount back to the opening word.
  have last := (amount.gap_append range.blank''.2).word_append absent (by decide)
    (startsWithWord_gap_append range.blank''.1 range.blank''.2 _)
  have amounts := (last.gap_append range.blank'.2).sum_append range.first
    (startsWithWord_gap_append range.blank'.1 range.blank'.2 _)
  have headed := IsHeaded.of_headless (List.mem_cons_self : "between" ∈ headWords)
    (amounts.gap_append range.blank.2) (startsWithWord_gap_append range.blank.1 range.blank.2 _)
  unfold BetweenText.text BetweenText.opening
  simpa only [List.append_assoc] using headed

end Figure

namespace Stretch

open Figure

variable {text : Text}

/-- No expression that an opening word begins starts within another one. -/
theorem eq_nil_of_isHeaded
    {first second : Stretch text}
    {head rest : Text}
    (headed : IsHeaded (folded first.body))
    (headed' : IsHeaded (folded second.body))
    (closes : Apart first.body.reverse first.after)
    (split : first.body = head ++ rest)
    (nonempty : rest ≠ [])
    (same : rest ++ first.after = second.body ++ second.after) :
    head = [] := by
  cases head with
  | nil => rfl
  | cons c head =>
      obtain ⟨name, known, others, begins⟩ := headed'.begins
      rw [List.cons_append] at split
      have inner : (folded first.body).tail = folded head ++ folded rest := by
        rw [split, folded_cons, List.tail_cons, folded_append]
      have closes : Apart (folded head ++ folded rest).reverse (folded first.after) := by
        rw [← folded_append, ← folded_reverse, apart_folded_iff]
        have some : head ++ rest ≠ [] := List.append_ne_nil_of_right_ne_nil _ nonempty
        rw [split] at closes
        exact (@apart_reverse_append_iff [c] _ _ some).1 closes
      have begins : folded rest ++ folded first.after =
          name.toList ++ (others ++ folded second.after) := by
        rw [← folded_append, same, folded_append, begins, List.append_assoc]
      exact absurd begins
        (headed.headless (inner ▸ closes) inner (by simpa [folded] using nonempty) known)

/-- Two expressions that begin with opening words and meet begin at the same place. -/
theorem before_eq_of_meets
    {first second : Stretch text}
    (headed : IsHeaded (folded first.body))
    (headed' : IsHeaded (folded second.body))
    (closes : Apart first.body.reverse first.after)
    (closes' : Apart second.body.reverse second.after)
    (meets : first.span.meets second.span = true) :
    first.before = second.before := by
  rcases exists_rest_of_meets first second meets with
    ⟨head, rest, place, split, nonempty, same⟩ | ⟨head, rest, place, split, nonempty, same⟩
  · rw [eq_nil_of_isHeaded headed headed' closes split nonempty same, List.append_nil] at place
    exact place.symm
  · rwa [eq_nil_of_isHeaded headed' headed closes' split nonempty same, List.append_nil] at place

end Stretch
end SearchPhrase
