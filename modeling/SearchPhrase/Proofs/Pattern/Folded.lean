import SearchPhrase.Proofs.Pattern.Takes
import SearchPhrase.Proofs.Text.Thinning
import SearchPhrase.Proofs.Text.Trimmed
import SearchPhrase.Unicode.Ascii

/-!
# Patterns without regard to case

Folding puts the two cases of a letter together, and it keeps word characters, digits and white
space apart as they were.  A pattern that is taken without regard to case takes a text exactly when
the pattern itself, written in folded case, takes the folded text.
-/

namespace SearchPhrase

open Unicode

namespace CharClass

/-- A property of characters survives folding if it does so for ASCII characters and for the two
others that fold to one. -/
theorem apply_foldCase
    {α : Type}
    {property : Char → α}
    (ascii : ∀ n < 128, property (Char.ofNat n).toLower = property (Char.ofNat n))
    (kelvin : property 'k' = property (Char.ofNat 0x212A))
    (longS : property 's' = property (Char.ofNat 0x17F))
    (c : Char) :
    property (foldCase c) = property c := by
  unfold foldCase
  split
  · next same => rw [same, kelvin]
  · split
    · next same => rw [same, longS]
    · by_cases low : c.toNat < 128
      · exact forall_ascii (P := fun c => property c.toLower = property c) ascii low
      · rw [Text.toLower_of_not_ascii low]

/-- What is folded stays as it is. -/
theorem foldCase_foldCase (c : Char) : foldCase (foldCase c) = foldCase c :=
  apply_foldCase (by decide) (by decide) (by decide) c

end CharClass

namespace Unicode

theorem isWord_foldCase (c : Char) : isWord (CharClass.foldCase c) = isWord c :=
  CharClass.apply_foldCase (by decide) (by decide) (by decide) c

theorem isWordDigit_foldCase (c : Char) : isWordDigit (CharClass.foldCase c) = isWordDigit c :=
  CharClass.apply_foldCase (by decide) (by decide) (by decide) c

theorem isWhiteSpace_foldCase (c : Char) :
    isWhiteSpace (CharClass.foldCase c) = isWhiteSpace c :=
  CharClass.apply_foldCase (by decide) (by decide) (by decide) c

end Unicode

namespace Text

/-- A text in which the two cases of a letter are put together. -/
def folded (text : Text) : Text :=
  text.map CharClass.foldCase

@[simp] theorem folded_nil : folded [] = [] := rfl

@[simp] theorem folded_cons (c : Char) (rest : Text) :
    folded (c :: rest) = CharClass.foldCase c :: folded rest :=
  rfl

@[simp] theorem folded_append (first second : Text) :
    folded (first ++ second) = folded first ++ folded second :=
  List.map_append

@[simp] theorem folded_reverse (text : Text) : folded text.reverse = (folded text).reverse :=
  List.map_reverse

theorem folded_eq_append_iff {text first second : Text} :
    folded text = first ++ second ↔
      ∃ head tail, text = head ++ tail ∧ folded head = first ∧ folded tail = second :=
  List.map_eq_append_iff

theorem startsWithWord_folded (text : Text) :
    Cursor.startsWithWord (folded text) = Cursor.startsWithWord text := by
  cases text with
  | nil => rfl
  | cons c rest => exact isWord_foldCase c

theorem atBoundary_folded (before after : Text) :
    Cursor.atBoundary ⟨folded before, folded after⟩ = Cursor.atBoundary ⟨before, after⟩ := by
  rw [Cursor.atBoundary, Cursor.atBoundary, startsWithWord_folded, startsWithWord_folded]

theorem endsInNumber_folded (before : Text) :
    endsInNumber (folded before) = endsInNumber before := by
  have comma : ∀ c, (CharClass.foldCase c == ',') = (c == ',') :=
    @CharClass.apply_foldCase Bool (· == ',') (by decide) (by decide) (by decide)
  induction before with
  | nil => rfl
  | cons c rest ih =>
      unfold endsInNumber at ih ⊢
      rw [folded_cons, List.dropWhile_cons, List.dropWhile_cons, comma]
      split
      · exact ih
      · exact isWordDigit_foldCase c

theorem takeWhile_isWord_folded (text : Text) :
    (folded text).takeWhile isWord = folded (text.takeWhile isWord) := by
  have same : isWord ∘ CharClass.foldCase = isWord := funext isWord_foldCase
  rw [folded, List.takeWhile_map, same, folded]

end Text

/-- A run of word characters in which the two cases of a letter are put together. -/
def WordRun.folded (run : WordRun) : WordRun :=
  ⟨Text.folded run.text, run.followsNumber⟩

namespace Text

/-- Folding leaves the runs of a text where they are. -/
theorem wordRunsAfter_folded (before text : Text) :
    wordRunsAfter (folded before) (folded text) =
      (wordRunsAfter before text).map WordRun.folded := by
  induction text generalizing before with
  | nil => rfl
  | cons c rest ih =>
      have others := ih (c :: before)
      have word := takeWhile_isWord_folded (c :: rest)
      rw [folded_cons] at others word ⊢
      rw [wordRunsAfter, wordRunsAfter, isWord_foldCase, startsWithWord_folded,
        endsInNumber_folded, others, word]
      split <;> rfl

/-- A stretch whose runs may go in folded case may be left out as it stands. -/
theorem IsSpare.of_folded
    {Gone : WordRun → Prop}
    {before stretch after : Text}
    (spare : IsSpare Gone (folded before) (folded stretch) (folded after)) :
    IsSpare (fun run => Gone run.folded) before stretch after := by
  obtain ⟨opens, closes, gone⟩ := spare
  refine ⟨?_, ?_, ?_⟩
  · rwa [← folded_append, Apart, startsWithWord_folded, startsWithWord_folded] at opens
  · rwa [← folded_reverse, ← folded_append, Apart, startsWithWord_folded,
      startsWithWord_folded] at closes
  · rw [wordRunsAfter_folded] at gone
    intro run member
    exact gone _ (List.mem_map_of_mem member)

end Text

namespace CharClass

/-- Whether a class is written in folded case. -/
def isFolded : CharClass → Bool
  | only c => foldCase c == c
  | either left right => left.isFolded && right.isFolded
  | _ => true

/-- Without regard to case, a class accepts what it accepts once it is folded. -/
theorem accepts_ignoreCase
    {cls : CharClass}
    (written : cls.isFolded = true)
    (c : Char) :
    cls.ignoreCase.accepts c = cls.accepts (foldCase c) := by
  induction cls with
  | only d => rw [ignoreCase, accepts, accepts, beq_iff_eq.1 written]
  | folded d =>
      have same : (folded d).ignoreCase = folded d := rfl
      rw [same, accepts, accepts, foldCase_foldCase]
  | digit => exact (isWordDigit_foldCase c).symm
  | space => exact (isWhiteSpace_foldCase c).symm
  | either left right ihLeft ihRight =>
      rw [isFolded, Bool.and_eq_true] at written
      rw [ignoreCase, accepts, accepts, ihLeft written.1, ihRight written.2]

end CharClass

namespace Pattern

open Text

/-- Whether a pattern is written in folded case. -/
def isFolded : Pattern → Bool
  | char cls => cls.isFolded
  | seq first second => first.isFolded && second.isFolded
  | alt preferred fallback => preferred.isFolded && fallback.isFolded
  | run cls => cls.isFolded
  | capture _ body => body.isFolded
  | _ => true

/-- A phrase is written in folded case if its characters are. -/
theorem isFolded_literal
    {phrase : String}
    (written : ∀ c ∈ phrase.toList, CharClass.foldCase c = c) :
    (literal phrase).isFolded = true := by
  unfold literal
  generalize phrase.toList = text at written
  induction text with
  | nil => rfl
  | cons c rest ih =>
      have first : (only c).isFolded = true := beq_iff_eq.2 (written c List.mem_cons_self)
      have others := ih fun d member => written d (List.mem_cons_of_mem _ member)
      exact Bool.and_eq_true_iff.2 ⟨first, others⟩

theorem isFolded_anyOf
    {patterns : List Pattern}
    (written : ∀ pattern ∈ patterns, pattern.isFolded = true) :
    (anyOf patterns).isFolded = true := by
  induction patterns with
  | nil => rfl
  | cons pattern patterns ih =>
      have first := written pattern List.mem_cons_self
      have others := ih fun other member => written other (List.mem_cons_of_mem _ member)
      cases patterns with
      | nil => exact first
      | cons next patterns => exact Bool.and_eq_true_iff.2 ⟨first, others⟩

/-- Any of several phrases is written in folded case if each of them is. -/
theorem isFolded_oneOf
    {phrases : List String}
    (written : ∀ phrase ∈ phrases, (literal phrase).isFolded = true) :
    (oneOf phrases).isFolded = true :=
  isFolded_anyOf (List.forall_mem_map.2 written)

theorem isFolded_bounded
    {body : Pattern}
    (written : body.isFolded = true) :
    (bounded body).isFolded = true :=
  Bool.and_eq_true_iff.2 ⟨written, rfl⟩

/-- Without regard to case, a pattern takes a text exactly when it takes the folded text. -/
theorem takes_ignoreCase
    {pattern : Pattern}
    {before text after : Text}
    (written : pattern.isFolded = true) :
    pattern.ignoreCase.Takes before text after ↔
      pattern.Takes (folded before) (folded text) (folded after) := by
  induction pattern generalizing before text after with
  | never => exact Iff.rfl
  | empty => exact List.map_eq_nil_iff.symm
  | char cls =>
      constructor
      · rintro ⟨c, rfl, accepted⟩
        exact ⟨_, rfl, CharClass.accepts_ignoreCase written c ▸ accepted⟩
      · rintro ⟨d, single, accepted⟩
        obtain ⟨c, rfl, rfl⟩ := List.map_eq_singleton_iff.1 single
        exact ⟨c, rfl, (CharClass.accepts_ignoreCase written c).trans accepted⟩
  | seq first second ihFirst ihSecond =>
      rw [isFolded, Bool.and_eq_true] at written
      constructor
      · rintro ⟨head, tail, rfl, takesHead, takesTail⟩
        refine ⟨folded head, folded tail, folded_append _ _, ?_, ?_⟩
        · simpa using (ihFirst written.1).1 takesHead
        · simpa using (ihSecond written.2).1 takesTail
      · rintro ⟨_, _, whole, takesHead, takesTail⟩
        obtain ⟨head, tail, rfl, rfl, rfl⟩ := folded_eq_append_iff.1 whole
        refine ⟨head, tail, rfl, (ihFirst written.1).2 ?_, (ihSecond written.2).2 ?_⟩
        · simpa using takesHead
        · simpa using takesTail
  | alt preferred fallback ihPreferred ihFallback =>
      rw [isFolded, Bool.and_eq_true] at written
      exact or_congr (ihPreferred written.1) (ihFallback written.2)
  | run cls =>
      rw [ignoreCase, takes_run, takes_run, Text.folded, List.forall_mem_map]
      exact forall₂_congr fun c _ => by rw [CharClass.accepts_ignoreCase written]
  | boundary =>
      rw [ignoreCase, takes_boundary, takes_boundary, atBoundary_folded]
      exact and_congr_left' List.map_eq_nil_iff.symm
  | capture slot body ih => exact ih written

end Pattern
end SearchPhrase
