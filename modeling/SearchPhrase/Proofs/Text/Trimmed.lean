import SearchPhrase.Text.Utf8
import SearchPhrase.Unicode.Ascii

/-!
# Trimmed texts

A trimmed text is one that is there and has no white space at its ends.  Trimming leads to such a
text unless nothing is left, and trimmed texts that are joined make one.
-/

namespace SearchPhrase
namespace Text

open Unicode

/-- A text is there and trimming leaves it as it is. -/
def IsTrimmed (text : Text) : Prop :=
  text ≠ [] ∧ trim text = text

theorem isTrimmed_iff {text : Text} :
    IsTrimmed text ↔
      ∃ first ∈ text.head?, ∃ last ∈ text.getLast?,
        isWhiteSpace first = false ∧ isWhiteSpace last = false := by
  rw [IsTrimmed, trim_eq_self_iff]
  constructor
  · rintro ⟨nonempty, first, last⟩
    refine ⟨text.head nonempty, List.head?_eq_some_head nonempty, text.getLast nonempty,
      List.getLast?_eq_some_getLast nonempty, ?_, ?_⟩
    · exact first _ (List.head?_eq_some_head nonempty)
    · exact last _ (List.getLast?_eq_some_getLast nonempty)
  · rintro ⟨first, isFirst, last, isLast, solidFirst, solidLast⟩
    refine ⟨?_, ?_, ?_⟩
    · rintro rfl
      simp at isFirst
    · intro c member
      rwa [Option.mem_unique member isFirst]
    · intro c member
      rwa [Option.mem_unique member isLast]

/-- Whether a text begins and ends with something other than white space. -/
def hasSolidEnds (text : Text) : Bool :=
  text.head?.any (fun c => !isWhiteSpace c) && text.getLast?.any (fun c => !isWhiteSpace c)

theorem hasSolidEnds_iff {text : Text} : hasSolidEnds text = true ↔ IsTrimmed text := by
  rw [isTrimmed_iff, hasSolidEnds, Bool.and_eq_true, Option.any_eq_true, Option.any_eq_true]
  constructor
  · rintro ⟨⟨first, isFirst, solidFirst⟩, last, isLast, solidLast⟩
    exact ⟨first, isFirst, last, isLast, by simpa using solidFirst, by simpa using solidLast⟩
  · rintro ⟨first, isFirst, last, isLast, solidFirst, solidLast⟩
    exact ⟨⟨first, isFirst, by simp [solidFirst]⟩, last, isLast, by simp [solidLast]⟩

instance (text : Text) : Decidable (IsTrimmed text) :=
  decidable_of_iff _ hasSolidEnds_iff

theorem IsTrimmed.isBlank_eq_false {text : Text} (trimmed : IsTrimmed text) :
    isBlank text = false := by
  obtain ⟨nonempty, same⟩ := trimmed
  refine Bool.eq_false_iff.2 fun blank => nonempty ?_
  rw [← same]
  exact trim_eq_nil_iff.2 blank

theorem isTrimmed_trim {text : Text} (visible : isBlank text = false) : IsTrimmed (trim text) := by
  refine ⟨fun nothing => ?_, trim_trim text⟩
  simp [trim_eq_nil_iff.1 nothing] at visible

/-- A text without any white space is trimmed. -/
theorem isTrimmed_of_solid
    {text : Text}
    (nonempty : text ≠ [])
    (solid : ∀ c ∈ text, isWhiteSpace c = false) :
    IsTrimmed text := by
  refine ⟨nonempty, trim_eq_self_iff.2 ⟨?_, ?_⟩⟩
  · exact fun c first => solid c (List.mem_of_head? first)
  · exact fun c last => solid c (List.mem_of_getLast? last)

/-- Whatever stands between two trimmed texts, together they are trimmed. -/
theorem IsTrimmed.append
    {first last : Text}
    (firstTrimmed : IsTrimmed first)
    (middle : Text)
    (lastTrimmed : IsTrimmed last) :
    IsTrimmed (first ++ middle ++ last) := by
  obtain ⟨c, isFirst, -, -, solidFirst, -⟩ := isTrimmed_iff.1 firstTrimmed
  obtain ⟨-, -, d, isLast, -, solidLast⟩ := isTrimmed_iff.1 lastTrimmed
  refine isTrimmed_iff.2 ⟨c, ?_, d, ?_, solidFirst, solidLast⟩
  · rw [Option.mem_def] at isFirst ⊢
    simp [isFirst]
  · rw [Option.mem_def] at isLast ⊢
    simp [isLast]

theorem isTrimmed_intercalate
    {parts : List Text}
    (separator : Text)
    (nonempty : parts ≠ [])
    (trimmed : ∀ part ∈ parts, IsTrimmed part) :
    IsTrimmed (List.intercalate separator parts) := by
  induction parts with
  | nil => exact absurd rfl nonempty
  | cons part parts ih =>
      have first := trimmed part (by simp)
      cases parts with
      | nil => simpa using first
      | cons next parts =>
          rw [List.intercalate_cons_cons]
          refine first.append separator (ih (by simp) ?_)
          exact fun other member => trimmed other (List.mem_cons_of_mem _ member)

theorem mem_intercalate
    {separator : Text}
    {parts : List Text}
    {c : Char}
    (member : c ∈ List.intercalate separator parts) :
    c ∈ separator ∨ ∃ part ∈ parts, c ∈ part := by
  induction parts with
  | nil => simp at member
  | cons part parts ih =>
      cases parts with
      | nil => exact .inr ⟨part, by simp, by simpa using member⟩
      | cons next parts =>
          rw [List.intercalate_cons_cons, List.mem_append, List.mem_append] at member
          rcases member with (first | between) | later
          · exact .inr ⟨part, by simp, first⟩
          · exact .inl between
          · rcases ih later with between | ⟨other, known, inside⟩
            · exact .inl between
            · exact .inr ⟨other, List.mem_cons_of_mem _ known, inside⟩

/-- A word is there, holds no white space, and consists of characters of the text. -/
theorem of_mem_words {text word : Text} (member : word ∈ words text) :
    word ≠ [] ∧ (∀ c ∈ word, isWhiteSpace c = false) ∧ word ⊆ text := by
  induction text generalizing word with
  | nil => simp [words] at member
  | cons c rest ih =>
      rw [words] at member
      split at member
      · obtain ⟨there, solid, part⟩ := ih member
        exact ⟨there, solid, List.Subset.trans part (List.subset_cons_self c rest)⟩
      · next visible =>
          have solidHead : isWhiteSpace c = false := by simpa using visible
          split at member
          · cases found : words rest with
            | nil =>
                rw [found, consFirst, List.mem_singleton] at member
                subst member
                simp [solidHead]
            | cons first others =>
                rw [found, consFirst, List.mem_cons] at member
                rcases member with rfl | member
                · obtain ⟨-, solid, part⟩ := @ih first (by simp [found])
                  refine ⟨by simp, ?_, List.cons_subset_cons c part⟩
                  simpa [solidHead] using solid
                · obtain ⟨there, solid, part⟩ := @ih word (by simp [found, member])
                  exact ⟨there, solid, List.Subset.trans part (List.subset_cons_self c rest)⟩
          · rcases List.mem_cons.1 member with rfl | member
            · simp [solidHead]
            · obtain ⟨there, solid, part⟩ := ih member
              exact ⟨there, solid, List.Subset.trans part (List.subset_cons_self c rest)⟩

theorem isTrimmed_of_mem_words {text word : Text} (member : word ∈ words text) : IsTrimmed word :=
  isTrimmed_of_solid (of_mem_words member).1 (of_mem_words member).2.1

/-- Putting white space together changes no words. -/
theorem words_collapse (text : Text) : words (collapse text) = words text :=
  words_intercalate (fun _ member => (of_mem_words member).1) fun _ member =>
    (of_mem_words member).2.1

/-- There is no white space to put together a second time. -/
theorem collapse_collapse (text : Text) : collapse (collapse text) = collapse text :=
  congrArg (List.intercalate [' ']) (words_collapse text)

theorem words_eq_nil_iff {text : Text} : words text = [] ↔ isBlank text = true := by
  induction text with
  | nil => simp [words, isBlank]
  | cons c rest ih =>
      by_cases space : isWhiteSpace c = true
      · rw [words_cons_of_isWhiteSpace space, ih]
        simp [isBlank, space]
      · have solid : isWhiteSpace c = false := by simpa using space
        constructor
        · intro nothing
          rw [words, if_neg space] at nothing
          split at nothing
          · cases found : words rest <;> simp [found, consFirst] at nothing
          · simp at nothing
        · intro blank
          simp [isBlank, solid] at blank

/-- Collapsing leaves nothing of a blank text and a trimmed text of any other. -/
theorem collapse_eq_nil_or_isTrimmed (text : Text) :
    (collapse text = [] ∧ isBlank text = true) ∨
      (IsTrimmed (collapse text) ∧ isBlank text = false) := by
  cases blank : isBlank text with
  | true =>
      refine .inl ⟨?_, rfl⟩
      rw [collapse, words_eq_nil_iff.2 blank]
      rfl
  | false =>
      refine .inr ⟨isTrimmed_intercalate [' '] ?_ fun _ => isTrimmed_of_mem_words, rfl⟩
      intro nothing
      simp [words_eq_nil_iff.1 nothing] at blank

theorem toUpper_of_not_ascii {c : Char} (beyond : ¬c.toNat < 128) : c.toUpper = c := by
  apply dif_neg
  rintro ⟨-, small⟩
  have := UInt32.le_iff_toNat_le.1 small
  exact beyond (Nat.lt_of_le_of_lt this (by decide))

theorem toLower_of_not_ascii {c : Char} (beyond : ¬c.toNat < 128) : c.toLower = c := by
  apply dif_neg
  rintro ⟨-, small⟩
  have := UInt32.le_iff_toNat_le.1 small
  exact beyond (Nat.lt_of_le_of_lt this (by decide))

theorem isWhiteSpace_toUpper (c : Char) : isWhiteSpace c.toUpper = isWhiteSpace c := by
  by_cases ascii : c.toNat < 128
  · exact forall_ascii (P := fun c => isWhiteSpace c.toUpper = isWhiteSpace c) (by decide) ascii
  · rw [toUpper_of_not_ascii ascii]

theorem isWhiteSpace_toLower (c : Char) : isWhiteSpace c.toLower = isWhiteSpace c := by
  by_cases ascii : c.toNat < 128
  · exact forall_ascii (P := fun c => isWhiteSpace c.toLower = isWhiteSpace c) (by decide) ascii
  · rw [toLower_of_not_ascii ascii]

/-- A word that is capitalized is one still. -/
theorem isTrimmed_capitalize
    {word : Text}
    (nonempty : word ≠ [])
    (solid : ∀ c ∈ word, isWhiteSpace c = false) :
    IsTrimmed (capitalize word) := by
  cases word with
  | nil => exact absurd rfl nonempty
  | cons c rest =>
      apply isTrimmed_of_solid (List.cons_ne_nil _ _)
      intro d member
      rcases List.mem_cons.1 member with rfl | member
      · rw [isWhiteSpace_toUpper]
        exact solid c (by simp)
      · obtain ⟨e, known, rfl⟩ := List.mem_map.1 member
        rw [isWhiteSpace_toLower]
        exact solid e (List.mem_cons_of_mem _ known)

/-- The words of a text make a trimmed one with their capitals. -/
theorem isTrimmed_titleCase {text : Text} (visible : isBlank text = false) :
    IsTrimmed (titleCase text) := by
  apply isTrimmed_intercalate
  · intro nothing
    rw [List.map_eq_nil_iff, words_eq_nil_iff, visible] at nothing
    simp at nothing
  · intro word member
    obtain ⟨raw, known, rfl⟩ := List.mem_map.1 member
    obtain ⟨nonempty, solid, -⟩ := of_mem_words known
    exact isTrimmed_capitalize nonempty solid

/-- What is left after dropping bytes consists of characters of the text. -/
theorem dropBytes_subset (offset : Nat) (text : Text) : dropBytes offset text ⊆ text := by
  induction text generalizing offset with
  | nil => simp [dropBytes]
  | cons c rest ih =>
      rw [dropBytes]
      split
      · exact List.Subset.refl _
      · exact List.Subset.trans (ih _) (List.subset_cons_self c rest)

end Text
end SearchPhrase
