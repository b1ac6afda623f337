import SearchPhrase.Phrase.Keywords
import SearchPhrase.Proofs.Phrase.Amounts
import SearchPhrase.Proofs.Text.Thinning

/-!
# Words that the keywords may do without

A word may be left out of the keywords if it holds a digit, if it is one of the words on the lists
that the keywords are cleaned of, or if it is the scale letter of a number that ends in a comma,
perhaps with a word of the same price written right after it.  A text of which every word may go,
wherever the text stands, may be put together from white space, listed words and amounts.
-/

namespace SearchPhrase
namespace Keywords

open Cursor Figure Pattern Text Unicode

/-- The words around the amounts of a limit or of a range. -/
def connectives : List String :=
  ["under", "below", "less", "than", "over", "above", "more", "between", "and", "to"]

/-- The phrases of all lists that the keywords are cleaned of. -/
def listedPhrases : List String :=
  Locality.places ++ Traits.conditionOrder.flatMap Traits.conditionTriggers ++
    Maker.vehicleOnlyMakes ++ fillerWords ++ distanceWords ++ connectives

/-- The words of these phrases. -/
def listedWords : List Text :=
  listedPhrases.flatMap fun phrase => (wordRuns phrase.toList).map WordRun.text

/-- The words that may be written right after an amount. -/
def attachedWords : List String :=
  "to" :: distanceWords

/-- The letters that scale an amount. -/
def scaleLetters : List Text :=
  [['k'], ['m']]

/-- A scale letter alone, or with a word written right after it. -/
def scaleWords : List Text :=
  scaleLetters.flatMap fun letter => letter :: attachedWords.map fun name => letter ++ name.toList

/-- A word in folded case that holds a digit or is on one of the lists. -/
def IsFigureOrListed (run : WordRun) : Prop :=
  (∃ c ∈ run.text, isWordDigit c = true) ∨ run.text ∈ listedWords

/-- A word in folded case that the keywords may do without. -/
def IsDispensable (run : WordRun) : Prop :=
  IsFigureOrListed run ∨ (run.followsNumber = true ∧ run.text ∈ scaleWords)

theorem isSteady_isDispensable : WordRun.IsSteady IsDispensable := by
  rintro kept run text follows (ordinary | ⟨scaled, known⟩)
  · refine .inl ?_
    rwa [IsFigureOrListed, ← text]
  · exact .inr ⟨follows scaled, text ▸ known⟩

/-- A word of letters is a run by itself. -/
theorem wordRuns_of_solid
    {word : Text}
    (nonempty : word ≠ [])
    (solid : ∀ c ∈ word, isWord c = true) :
    wordRuns word = [⟨word, false⟩] := by
  obtain ⟨c, rest, rfl⟩ := List.exists_cons_of_ne_nil nonempty
  have inWord : startsWithWord [c] = true := solid c (by simp)
  have others := wordRunsAfter_append_of_continues inWord
    (fun d member => solid d (List.mem_cons_of_mem _ member)) ([] : Text)
  rw [List.append_nil] at others
  have whole : (c :: rest).takeWhile isWord = c :: rest := by
    rw [← List.append_nil (c :: rest), List.takeWhile_append_of_pos solid]
    rfl
  rw [wordRuns, wordRunsAfter_cons_of_begins inWord rfl, others, wordRunsAfter_nil, whole]
  rfl

/-- A single word of the lists is one of their words. -/
theorem mem_listedWords
    {names : List String}
    {name : String}
    (words : areWords names = true)
    (listed : names ⊆ listedPhrases)
    (known : name ∈ names) :
    name.toList ∈ listedWords := by
  obtain ⟨nonempty, solid, -⟩ := of_areWords words known
  refine List.mem_flatMap.2 ⟨name, listed known, ?_⟩
  rw [wordRuns_of_solid nonempty solid]
  exact List.mem_singleton.2 rfl

theorem connectives_subset : connectives ⊆ listedPhrases :=
  List.subset_append_right _ _

theorem attachedWords_subset : attachedWords ⊆ listedPhrases := by
  intro name known
  rcases List.mem_cons.1 known with rfl | known
  · exact connectives_subset (by decide)
  · simp [listedPhrases, known]

theorem areWords_attachedWords : areWords attachedWords = true := by
  decide

theorem areWords_connectives : areWords connectives = true := by
  decide

/-- Every word that begins in a text may go.  The text before it is given back to front. -/
def AllDispensable (before text : Text) : Prop :=
  ∀ run ∈ wordRunsAfter before text, IsDispensable run

/-- Every word that begins in a text may go, wherever the text stands. -/
def IsLoose (text : Text) : Prop :=
  ∀ before, AllDispensable before text

/-- A text begins with no letter if a word that it begins with has a digit there. -/
def BeginsNoLetter (text : Text) : Prop :=
  startsWithWord text = true → startsWithDigit text = true

theorem isLoose_nil : IsLoose [] :=
  fun _ _ member => absurd member List.not_mem_nil

section Texts

variable {before rest : Text}

theorem beginsNoLetter_of_not_startsWithWord
    (ended : startsWithWord rest = false) :
    BeginsNoLetter rest := by
  intro starts
  simp [ended] at starts

theorem beginsNoLetter_nil : BeginsNoLetter [] :=
  beginsNoLetter_of_not_startsWithWord rfl

theorem beginsNoLetter_append_of_spaced
    {gap : Text}
    (spaced : gap ≠ [])
    (blank : isBlank gap = true)
    (rest : Text) :
    BeginsNoLetter (gap ++ rest) :=
  beginsNoLetter_of_not_startsWithWord (startsWithWord_gap_append spaced blank rest)

theorem beginsNoLetter_append_of_isBlank
    {gap : Text}
    (blank : isBlank gap = true)
    (noLetter : BeginsNoLetter rest) :
    BeginsNoLetter (gap ++ rest) := by
  by_cases none : gap = []
  · rwa [none, List.nil_append]
  · exact beginsNoLetter_append_of_spaced none blank rest

/-- A text in which only digits belong to words may stand before others. -/
theorem allDispensable_append_of_digits
    {first : Text}
    (digits : ∀ c ∈ first, isWord c = true → isWordDigit c = true)
    (others : AllDispensable (first.reverse ++ before) rest) :
    AllDispensable before (first ++ rest) := by
  induction first generalizing before with
  | nil => exact others
  | cons c first ih =>
      have tail : AllDispensable (c :: before) (first ++ rest) := by
        apply ih fun d member => digits d (List.mem_cons_of_mem _ member)
        simpa using others
      intro run member
      rw [List.cons_append, wordRunsAfter] at member
      split at member
      · next begins =>
          rw [Bool.and_eq_true] at begins
          rcases List.mem_cons.1 member with rfl | member
          · refine .inl (.inl ⟨c, ?_, digits c (by simp) begins.1⟩)
            rw [List.takeWhile_cons_of_pos begins.1]
            exact List.mem_cons_self
          · exact tail run member
      · exact tail run member

/-- A word that may go may stand before others, unless letters go on from it. -/
theorem allDispensable_word_append
    {word : Text}
    (nonempty : word ≠ [])
    (solid : ∀ c ∈ word, isWord c = true)
    (gone : IsDispensable ⟨word, endsInNumber before⟩)
    (noLetter : BeginsNoLetter rest)
    (others : IsLoose rest) :
    AllDispensable before (word ++ rest) := by
  intro run member
  cases goesOn : startsWithWord before with
  | true =>
      rw [wordRunsAfter_append_of_continues goesOn solid] at member
      exact others _ run member
  | false =>
      obtain ⟨c, tail, rfl⟩ := List.exists_cons_of_ne_nil nonempty
      have inWord : startsWithWord (c :: before) = true := solid c (by simp)
      rw [List.cons_append, wordRunsAfter_cons_of_begins inWord goesOn,
        wordRunsAfter_append_of_continues inWord fun d member =>
          solid d (List.mem_cons_of_mem _ member)] at member
      rcases List.mem_cons.1 member with rfl | member
      · rw [← List.cons_append, List.takeWhile_append_of_pos solid]
        cases starts : startsWithWord rest with
        | false => rwa [takeWhile_isWord_of_startsWithWord starts, List.append_nil]
        | true =>
            -- The word goes on with a digit.
            obtain ⟨d, after, rfl⟩ : ∃ d after, rest = d :: after := by
              cases rest with
              | nil => cases starts
              | cons d after => exact ⟨d, after, rfl⟩
            refine .inl (.inl ⟨d, ?_, noLetter starts⟩)
            rw [List.takeWhile_cons_of_pos (show isWord d = true from starts)]
            simp
      · exact others _ run member

/-- White space may stand before others. -/
theorem IsLoose.gap_append
    {gap : Text}
    (others : IsLoose rest)
    (blank : isBlank gap = true) :
    IsLoose (gap ++ rest) := by
  intro before
  refine allDispensable_append_of_digits (fun c member word => ?_) (others _)
  simp [isWord_of_isBlank blank c member] at word

/-- A word of the lists may stand before others. -/
theorem IsLoose.name_append
    {names : List String}
    {name : String}
    (others : IsLoose rest)
    (words : areWords names = true)
    (listed : names ⊆ listedPhrases)
    (known : name ∈ names)
    (noLetter : BeginsNoLetter rest) :
    IsLoose (name.toList ++ rest) := by
  intro before
  obtain ⟨nonempty, solid, -⟩ := of_areWords words known
  exact allDispensable_word_append nonempty solid
    (.inl (.inr (mem_listedWords words listed known))) noLetter others

/-- A word around the amounts of a limit or of a range may stand before others. -/
theorem IsLoose.connective_append
    {name : String}
    (others : IsLoose rest)
    (known : name ∈ connectives)
    (noLetter : BeginsNoLetter rest) :
    IsLoose (name.toList ++ rest) :=
  others.name_append areWords_connectives connectives_subset known noLetter

end Texts

theorem endsInNumber_of_isNumber
    {digits : Text}
    (isNumber : IsNumber digits)
    (before : Text) :
    endsInNumber (digits.reverse ++ before) = true := by
  obtain ⟨first, whole, fraction, rfl, digit, rest, point⟩ := isNumber
  have notComma : ∀ c, isWordDigit c = true → (c == ',') = false := by
    intro c digit
    apply Bool.eq_false_iff.2
    intro comma
    rw [beq_iff_eq.1 comma] at digit
    exact absurd digit (by decide)
  apply endsInNumber_append
  unfold endsInNumber
  rcases point with rfl | ⟨others, rfl, nonempty, all⟩
  · -- Back to front, there are digits and commas up to the first digit of the number.
    have ends : ∀ back : Text, (∀ c ∈ back, isWordDigit c = true ∨ c = ',') →
        ((back ++ [first]).dropWhile (· == ',')).head?.any isWordDigit = true := by
      intro back
      induction back with
      | nil => simp [notComma first digit, digit]
      | cons c back ih =>
          intro all
          rcases all c (by simp) with isDigit | rfl
          · simp [notComma c isDigit, isDigit]
          · simpa using ih fun d member => all d (List.mem_cons_of_mem _ member)
    simpa using ends whole.reverse (by simpa using rest)
  · obtain ⟨front, last, rfl⟩ := (List.eq_nil_or_concat others).resolve_left nonempty
    have isDigit := all last (by simp)
    simp [notComma last isDigit, isDigit]

section Amounts

variable {sign digits rest : Text}

/-- The sign and the number of an amount may stand before others that may go after a number. -/
theorem isLoose_figure_append
    (isSign : IsSign sign)
    (isNumber : IsNumber digits)
    (others : ∀ before, endsInNumber before = true → AllDispensable before rest) :
    IsLoose (sign ++ (digits ++ rest)) := by
  intro before
  rw [← List.append_assoc]
  refine allDispensable_append_of_digits (fun c member word => ?_) ?_
  · rcases List.mem_append.1 member with member | member
    · rcases isSign with rfl | ⟨gap, rfl, blank⟩
      · exact absurd member List.not_mem_nil
      · rcases List.mem_cons.1 member with rfl | member
        · exact absurd word (by decide)
        · simp [isWord_of_isBlank blank c member] at word
    · have apart : isWord ',' = false ∧ isWord '.' = false := by decide
      rcases isNumber.mem member with digit | rfl | rfl
      · exact digit
      · simp [apart] at word
      · simp [apart] at word
  · rw [List.reverse_append, List.append_assoc]
    exact others _ (endsInNumber_of_isNumber isNumber _)

/-- A scale letter may stand right after a number, perhaps with a word written right after it. -/
theorem allDispensable_scale_append
    {before word : Text}
    (follows : endsInNumber before = true)
    (known : word ∈ scaleWords)
    (noLetter : BeginsNoLetter rest)
    (others : IsLoose rest) :
    AllDispensable before (word ++ rest) := by
  have solid : ∀ word ∈ scaleWords, word ≠ [] ∧ ∀ c ∈ word, isWord c = true := by decide
  exact allDispensable_word_append (solid word known).1 (solid word known).2
    (.inr ⟨follows, known⟩) noLetter others

/-- An amount may stand before others, unless letters go on from it. -/
theorem IsLoose.sum_append
    (others : IsLoose rest)
    (sum : Sum)
    (noLetter : BeginsNoLetter rest) :
    IsLoose (sum.text ++ rest) := by
  rw [Sum.text, List.append_assoc, List.append_assoc]
  refine isLoose_figure_append sum.isSign sum.isNumber fun before follows => ?_
  by_cases none : sum.letter = []
  · rw [none]
    exact others before
  · have known : sum.letter ∈ scaleWords := by
      rcases sum.isLetter.resolve_left none with letter | letter <;> rw [letter] <;> decide
    exact allDispensable_scale_append follows known noLetter others

/-- An amount may stand before others with a word after it, even one written right after it. -/
theorem IsLoose.sum_name_append
    {gap : Text}
    {name : String}
    (others : IsLoose rest)
    (sum : Sum)
    (blank : isBlank gap = true)
    (attached : name ∈ attachedWords)
    (noLetter : BeginsNoLetter rest) :
    IsLoose (sum.text ++ (gap ++ (name.toList ++ rest))) := by
  have named := others.name_append areWords_attachedWords attachedWords_subset attached noLetter
  by_cases spaced : gap = []
  · rw [spaced, List.nil_append, Sum.text, List.append_assoc, List.append_assoc]
    refine isLoose_figure_append sum.isSign sum.isNumber fun before follows => ?_
    by_cases none : sum.letter = []
    · rw [none]
      exact named before
    · have known : sum.letter ++ name.toList ∈ scaleWords := by
        refine List.mem_flatMap.2 ⟨sum.letter, ?_, List.mem_cons_of_mem _ ?_⟩
        · simpa [scaleLetters, none] using sum.isLetter
        · exact List.mem_map.2 ⟨name, attached, rfl⟩
      rw [← List.append_assoc]
      exact allDispensable_scale_append follows known noLetter others
  · exact (named.gap_append blank).sum_append sum (beginsNoLetter_append_of_spaced spaced blank _)

/-- An amount begins with no letter. -/
theorem beginsNoLetter_sum_append (sum : Sum) (rest : Text) :
    BeginsNoLetter (sum.text ++ rest) := by
  rw [Sum.text]
  rcases sum.isSign with none | ⟨gap, mark, -⟩
  · intro _
    rw [none, List.nil_append, List.append_assoc]
    exact sum.isNumber.startsWithDigit _
  · rw [mark]
    exact beginsNoLetter_of_not_startsWithWord rfl

/-- Two amounts with the mark of a range between them may stand before others. -/
theorem IsLoose.range_append
    {gap mark gap' : Text}
    {second : Sum}
    (others : IsLoose (second.text ++ rest))
    (first : Sum)
    (blank : isBlank gap = true)
    (known : mark = ['-'] ∨ mark = ['t', 'o'])
    (blank' : isBlank gap' = true) :
    IsLoose (first.text ++ (gap ++ (mark ++ (gap' ++ (second.text ++ rest))))) := by
  have last := others.gap_append blank'
  have noLetter := beginsNoLetter_append_of_isBlank blank' (beginsNoLetter_sum_append second rest)
  rcases known with rfl | rfl
  · have dash : BeginsNoLetter (['-'] ++ (gap' ++ (second.text ++ rest))) :=
      beginsNoLetter_of_not_startsWithWord rfl
    have marked : IsLoose (['-'] ++ (gap' ++ (second.text ++ rest))) :=
      fun before => allDispensable_append_of_digits (by decide) (last _)
    exact (marked.gap_append blank).sum_append first (beginsNoLetter_append_of_isBlank blank dash)
  · have attached : "to" ∈ attachedWords := List.mem_cons_self
    exact last.sum_name_append first blank attached noLetter

end Amounts

end Keywords
end SearchPhrase
