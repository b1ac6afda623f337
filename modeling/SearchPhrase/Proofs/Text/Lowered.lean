import SearchPhrase.Proofs.Text.Stretch
import SearchPhrase.Proofs.Unicode.LowercaseWords

/-!
# Stretches of a text and of its lower-case form

Lower case puts a text together from the forms of its characters, so that every stretch of a text
has one of its lower-case form.  Where such a stretch holds nothing but digits, white space and
ASCII characters, it is one of these, and folding the stretch of the text gives the same.
-/

namespace SearchPhrase

open Cursor Unicode

namespace Unicode

/-- The lower-case form of a text between two others, of which the one before it is given back to
front. -/
def lowercaseBetween (before after : List Char) : List Char → List Char
  | [] => []
  | c :: rest => lowerIn before c (rest ++ after) ++ lowercaseBetween (c :: before) after rest

/-- The lower-case form of a text is put together from those of its parts, each in its place. -/
theorem lowercaseAfter_append_eq (before first second : List Char) :
    lowercaseAfter before (first ++ second) =
      lowercaseBetween before second first ++ lowercaseAfter (first.reverse ++ before) second := by
  induction first generalizing before with
  | nil => rfl
  | cons c first ih =>
      rw [List.cons_append, lowercaseAfter_cons_eq, ih, lowercaseBetween, List.append_assoc]
      simp

theorem lowercaseBetween_concat (before after front : List Char) (c : Char) :
    lowercaseBetween before after (front ++ [c]) =
      lowercaseBetween before (c :: after) front ++ lowerIn (front.reverse ++ before) c after := by
  induction front generalizing before with
  | nil => simp [lowercaseBetween]
  | cons d front ih =>
      rw [List.cons_append, lowercaseBetween, lowercaseBetween, ih]
      simp

/-- Whether a character is a digit, white space or an ASCII character other than the only one that
comes with a mark from a single capital. -/
def isUnmarked (c : Char) : Bool :=
  isBasic c && c != 'i'

theorem lowerIn_eq_of_isUnmarked
    {before rest : List Char}
    {c d : Char}
    (member : d ∈ lowerIn before c rest)
    (unmarked : isUnmarked d = true) :
    CharClass.foldCase c = d ∧ lowerIn before c rest = [d] := by
  simp only [isUnmarked, Bool.and_eq_true, bne_iff_ne] at unmarked
  exact foldCase_of_mem_lowerIn member unmarked.1 unmarked.2

/-- A lower-case form that is cut before an unmarked character is cut between two characters of the
text. -/
theorem exists_cut_of_lowercaseAfter
    {before text first rest : List Char}
    {d : Char}
    (unmarked : isUnmarked d = true)
    (whole : lowercaseAfter before text = first ++ d :: rest) :
    ∃ front back, text = front ++ back ∧ first = lowercaseBetween before back front ∧
      d :: rest = lowercaseAfter (front.reverse ++ before) back := by
  induction text generalizing before first with
  | nil => simp [lowercaseAfter] at whole
  | cons c text ih =>
      rw [lowercaseAfter_cons_eq] at whole
      rcases List.append_eq_append_iff.1 whole with ⟨part, rfl, same⟩ | ⟨part, same, others⟩
      · obtain ⟨front, back, rfl, rfl, later⟩ := ih same
        exact ⟨c :: front, back, rfl, rfl, by simpa using later⟩
      · cases part with
        | nil =>
            obtain ⟨front, back, rfl, none, later⟩ := @ih (c :: before) [] others.symm
            refine ⟨c :: front, back, rfl, ?_, by simpa using later⟩
            rw [lowercaseBetween, ← none, List.append_nil, same, List.append_nil]
        | cons e part =>
            obtain ⟨rfl, -⟩ := List.cons.inj others
            have member : d ∈ lowerIn before c text := by simp [same]
            have single := (lowerIn_eq_of_isUnmarked member unmarked).2
            rw [same] at single
            obtain rfl : first = [] := by
              have length := congrArg List.length single
              simp only [List.length_append, List.length_cons, List.length_nil] at length
              exact List.length_eq_zero_iff.1 (by omega)
            refine ⟨[], c :: text, rfl, rfl, ?_⟩
            rw [List.reverse_nil, List.nil_append, lowercaseAfter_cons_eq, whole, List.nil_append]

/-- The first part of a lower-case form, if all of it is unmarked, is the form of a first part of
the text that folds to it. -/
theorem exists_folded_of_lowercaseAfter
    {before text first rest : List Char}
    (unmarked : ∀ d ∈ first, isUnmarked d = true)
    (whole : lowercaseAfter before text = first ++ rest) :
    ∃ front back, text = front ++ back ∧ Text.folded front = first ∧
      first = lowercaseBetween before back front ∧
      rest = lowercaseAfter (front.reverse ++ before) back := by
  induction first generalizing before text with
  | nil => exact ⟨[], text, rfl, rfl, rfl, whole.symm⟩
  | cons d first ih =>
      cases text with
      | nil => simp [lowercaseAfter] at whole
      | cons c text =>
          rw [lowercaseAfter_cons_eq] at whole
          obtain ⟨e, image, shape⟩ := List.exists_cons_of_ne_nil (lowerIn_ne_nil before c text)
          have same := whole
          rw [shape, List.cons_append, List.cons_append] at same
          obtain ⟨rfl, -⟩ := List.cons.inj same
          have member : e ∈ lowerIn before c text := by simp [shape]
          obtain ⟨folds, single⟩ :=
            lowerIn_eq_of_isUnmarked member (unmarked e List.mem_cons_self)
          rw [single, List.singleton_append, List.cons_append] at whole
          obtain ⟨front, back, rfl, rfl, form, later⟩ :=
            ih (fun d member => unmarked d (List.mem_cons_of_mem _ member)) (List.cons.inj whole).2
          refine ⟨c :: front, back, rfl, ?_, ?_, by simpa using later⟩
          · rw [Text.folded_cons, folds]
          · rw [lowercaseBetween, single, List.singleton_append, ← form]

/-- A text that folds to basic characters is put into lower case by folding, as far as it holds no
long s. -/
theorem lowercaseBetween_eq_folded
    {text : List Char}
    (basic : ∀ c ∈ text, isBasic (CharClass.foldCase c) = true)
    (short : Char.ofNat 0x17F ∉ text)
    (before after : List Char) :
    lowercaseBetween before after text = Text.folded text := by
  induction text generalizing before with
  | nil => rfl
  | cons c text ih =>
      have apart := List.ne_and_not_mem_of_not_mem_cons short
      rw [lowercaseBetween, lowerIn_of_isBasic (basic c List.mem_cons_self) apart.1.symm,
        ih (fun d member => basic d (List.mem_cons_of_mem _ member)) apart.2]
      rfl

end Unicode

namespace Stretch

variable {text : Text}

/-- The lower-case form of a stretch. -/
def lowered (stretch : Stretch text) : Stretch (lowercase text) where
  before := lowercaseBetween [] (stretch.body ++ stretch.after) stretch.before
  body := lowercaseBetween stretch.before.reverse stretch.after stretch.body
  after := lowercaseAfter (stretch.body.reverse ++ stretch.before.reverse) stretch.after
  whole := by
    have parts := congrArg lowercase stretch.whole
    rwa [lowercase, lowercaseAfter_append_eq, List.append_nil, lowercaseAfter_append_eq] at parts

theorem before_lowered (stretch : Stretch text) :
    stretch.lowered.before = lowercaseBetween [] (stretch.body ++ stretch.after) stretch.before :=
  rfl

/-- Where a stretch begins with a character that separates, the text before it is put into lower
case as if it stood by itself. -/
theorem before_lowered_eq_lowercase
    {stretch : Stretch text}
    {c : Char}
    {rest : Text}
    (separates : separatesCase c = true)
    (shape : stretch.body = c :: rest) :
    stretch.lowered.before = lowercase stretch.before := by
  have parts := lowercaseAfter_append separates [] stretch.before (rest ++ stretch.after)
  rw [lowercaseAfter_append_eq] at parts
  rw [before_lowered, shape]
  exact List.append_cancel_right parts

theorem after_lowered (stretch : Stretch text) :
    stretch.lowered.after =
      lowercaseAfter (stretch.body.reverse ++ stretch.before.reverse) stretch.after :=
  rfl

theorem ext_parts
    {first second : Stretch text}
    (before : first.before = second.before)
    (body : first.body = second.body)
    (after : first.after = second.after) :
    first = second := by
  cases first
  cases second
  cases before
  cases body
  cases after
  rfl

/-- A stretch that folds to basic characters is put into lower case by folding, as far as it holds
no long s. -/
theorem body_lowered
    {stretch : Stretch text}
    (basic : ∀ c ∈ stretch.body, isBasic (CharClass.foldCase c) = true)
    (short : Char.ofNat 0x17F ∉ stretch.body) :
    stretch.lowered.body = Text.folded stretch.body :=
  lowercaseBetween_eq_folded basic short _ _

/-- A stretch of the lower-case form that holds nothing but unmarked characters is the form of a
stretch of the text, which folds to it. -/
theorem exists_lowered_eq
    {small : Stretch (lowercase text)}
    (nonempty : small.body ≠ [])
    (unmarked : ∀ d ∈ small.body, isUnmarked d = true) :
    ∃ stretch : Stretch text, stretch.lowered = small ∧ Text.folded stretch.body = small.body := by
  obtain ⟨d, rest, shape⟩ := List.exists_cons_of_ne_nil nonempty
  have whole : lowercaseAfter [] text = small.before ++ d :: (rest ++ small.after) := by
    rw [← List.cons_append, ← shape]
    exact small.whole.symm
  obtain ⟨front, back, rfl, before, later⟩ :=
    exists_cut_of_lowercaseAfter (unmarked d (by simp [shape])) whole
  rw [← List.cons_append, ← shape, List.append_nil] at later
  obtain ⟨body, after, rfl, folds, form, rest⟩ :=
    exists_folded_of_lowercaseAfter unmarked later.symm
  exact ⟨⟨front, body, after, rfl⟩, ext_parts before.symm form.symm rest.symm, folds⟩

/-- Words end before a stretch as they do before its lower-case form, unless a late capital stands
there. -/
theorem before_lowered_cases (stretch : Stretch text) :
    startsWithWord stretch.lowered.before.reverse = startsWithWord stretch.before.reverse ∨
      (startsWithWord stretch.before.reverse = false ∧
        ∃ c ∈ stretch.before.getLast?, isLateCapital c = true) := by
  rcases List.eq_nil_or_concat stretch.before with none | ⟨front, c, shape⟩
  · left
    rw [before_lowered, none]
    rfl
  · rw [List.concat_eq_append] at shape
    obtain ⟨image, d, last⟩ := (List.eq_nil_or_concat _).resolve_left
      (lowerIn_ne_nil (front.reverse ++ []) c (stretch.body ++ stretch.after))
    have form : startsWithWord stretch.lowered.before.reverse = isWord d := by
      rw [before_lowered, shape, lowercaseBetween_concat, last]
      simp [startsWithWord]
    have edge : startsWithWord stretch.before.reverse = isWord c := by
      rw [shape]
      simp [startsWithWord]
    have member : d ∈ lowerIn (front.reverse ++ []) c (stretch.body ++ stretch.after) := by
      rw [last, List.concat_eq_append]
      exact List.mem_append_right image List.mem_cons_self
    rw [form, edge, shape]
    exact (isWord_of_mem_lowerIn member).imp_right fun late => ⟨late.1, c, by simp, late.2⟩

/-- Words begin after a stretch as they do after its lower-case form, unless a late capital stands
there. -/
theorem after_lowered_cases (stretch : Stretch text) :
    startsWithWord stretch.lowered.after = startsWithWord stretch.after ∨
      (startsWithWord stretch.after = false ∧
        ∃ c ∈ stretch.after.head?, isLateCapital c = true) := by
  cases shape : stretch.after with
  | nil =>
      left
      rw [after_lowered, shape]
      rfl
  | cons c rest =>
      obtain ⟨d, image, first⟩ := List.exists_cons_of_ne_nil
        (lowerIn_ne_nil (stretch.body.reverse ++ stretch.before.reverse) c rest)
      have form : startsWithWord stretch.lowered.after = isWord d := by
        rw [after_lowered, shape, lowercaseAfter_cons_eq, first]
        rfl
      have edge : startsWithWord (c :: rest) = isWord c := rfl
      have member : d ∈ lowerIn (stretch.body.reverse ++ stretch.before.reverse) c rest := by
        rw [first]
        exact List.mem_cons_self
      rw [form, edge]
      exact (isWord_of_mem_lowerIn member).imp_right fun late => ⟨late.1, c, rfl, late.2⟩

end Stretch
end SearchPhrase
