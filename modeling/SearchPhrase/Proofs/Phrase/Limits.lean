import SearchPhrase.Proofs.Pattern.Records
import SearchPhrase.Proofs.Phrase.Figures

/-!
# The words of a limit

A limit is announced by a single word, or by a comparative with "than" after it.  The words tell
which end of a range is set, and a text ends in the words of at most one kind of limit.
-/

namespace SearchPhrase

namespace Text

open Unicode

/-- White space at the end of a text is lost in trimming. -/
theorem trimEnd_append_of_isBlank
    {gap : Text}
    (blank : isBlank gap = true)
    (text : Text) :
    trimEnd (text ++ gap) = trimEnd text := by
  have spaces : ∀ c ∈ gap.reverse, isWhiteSpace c = true := by
    intro c member
    exact isBlank_iff.1 blank c (List.mem_reverse.1 member)
  rw [trimEnd, trimEnd, List.reverse_append, trimStart, trimStart,
    List.dropWhile_append_of_pos spaces]

/-- Whether a text does not end in white space. -/
def EndsVisible (text : Text) : Prop :=
  ∀ c ∈ text.getLast?, isWhiteSpace c = false

theorem EndsVisible.append
    {text : Text}
    (visible : EndsVisible text)
    (nonempty : text ≠ [])
    (before : Text) :
    EndsVisible (before ++ text) := by
  obtain ⟨front, c, rfl⟩ := (List.eq_nil_or_concat text).resolve_left nonempty
  simpa [EndsVisible] using visible

/-- Two texts that do not end in white space are the same if they are so with white space after
them. -/
theorem eq_of_append_isBlank
    {first second gap gap' : Text}
    (visible : EndsVisible first)
    (visible' : EndsVisible second)
    (blank : isBlank gap = true)
    (blank' : isBlank gap' = true)
    (same : first ++ gap = second ++ gap') :
    first = second ∧ gap = gap' := by
  have texts : first = second := by
    rw [← trimEnd_eq_self visible, ← trimEnd_append_of_isBlank blank, same,
      trimEnd_append_of_isBlank blank', trimEnd_eq_self visible']
  subst texts
  exact ⟨rfl, List.append_cancel_left same⟩

end Text

namespace Figure

open Pattern Text Unicode

/-- The end of a range that a limit sets. -/
inductive Side where
  /-- The greatest value. -/
  | upper
  /-- The least value. -/
  | lower
deriving DecidableEq

namespace Side

/-- The words that announce a limit, as a pattern. -/
def limit : Side → Pattern
  | upper => atMost
  | lower => atLeast

/-- The single words that announce a limit. -/
def words : Side → List String
  | upper => ["under", "below"]
  | lower => ["over", "above"]

/-- The word that announces a limit with "than" after it. -/
def comparative : Side → String
  | upper => "less"
  | lower => "more"

/-- The words that announce a limit, with a single blank between two of them. -/
def keywords (side : Side) : List String :=
  side.words ++ [side.comparative ++ " than"]

/-- The words that a limit begins with. -/
def firstWords (side : Side) : List String :=
  side.comparative :: side.words

/-- The range of which only this end is set. -/
def bounds {α : Type} (side : Side) (value : α) : Bounds α :=
  match side with
  | upper => { upper := some value }
  | lower => { lower := some value }

/-- The end of a range on this side. -/
def bound? {α : Type} (side : Side) (bounds : Bounds α) : Option α :=
  match side with
  | upper => bounds.upper
  | lower => bounds.lower

/-- The value on this side of two. -/
def choose {α : Type} (side : Side) (low high : α) : α :=
  match side with
  | upper => high
  | lower => low

/-- Whether a text announces a limit. -/
inductive Announces (side : Side) : Text → Prop where
  /-- A single word announces it. -/
  | word {name : String} (known : name ∈ side.words) : Announces side name.toList
  /-- A comparative announces it. -/
  | than {gap : Text} (nonempty : gap ≠ []) (blank : isBlank gap = true) :
      Announces side (side.comparative.toList ++ (gap ++ "than".toList))

/-- A limit is announced by the texts that its pattern takes. -/
theorem takes_limit
    {side : Side}
    {before text after : Text} :
    side.limit.Takes before text after ↔ side.Announces text := by
  have forms : side.limit = anyOf (side.words.map literal ++
      [literal side.comparative ++ blank ++ literal "than"]) := by
    cases side <;> rfl
  rw [forms, takes_anyOf]
  simp only [List.mem_append, List.mem_map, List.mem_singleton]
  constructor
  · rintro ⟨_, ⟨name, known, rfl⟩ | rfl, takes⟩
    · rw [takes_literal.1 takes]
      exact .word known
    · obtain ⟨_, than, rfl, ⟨first, gap, rfl, isFirst, isGap⟩, isThan⟩ := takes
      rw [takes_literal.1 isFirst, takes_literal.1 isThan, List.append_assoc]
      exact .than (takes_blank.1 isGap).1 (takes_blank.1 isGap).2
  · intro announces
    cases announces with
    | word known => exact ⟨_, .inl ⟨_, known, rfl⟩, takes_literal.2 rfl⟩
    | than nonempty blank =>
        refine ⟨_, .inr rfl, _, "than".toList, (List.append_assoc _ _ _).symm, ?_,
          takes_literal.2 rfl⟩
        exact ⟨_, _, rfl, takes_literal.2 rfl, takes_blank.2 ⟨nonempty, blank⟩⟩

theorem announces_of_mem_keywords
    {side : Side}
    {keyword : String}
    (known : keyword ∈ side.keywords) :
    side.Announces keyword.toList := by
  rcases List.mem_append.1 known with known | known
  · exact .word known
  · rw [List.mem_singleton.1 known]
    have form : (side.comparative ++ " than").toList =
        side.comparative.toList ++ ([' '] ++ "than".toList) := by
      cases side <;> rfl
    rw [form]
    exact .than (List.cons_ne_nil _ _) (by decide)

theorem areWords_firstWords (side : Side) : areWords side.firstWords = true := by
  cases side <;> decide

namespace Announces

variable {side : Side} {text : Text}

/-- What announces a limit begins with one of its words. -/
theorem begins (announces : side.Announces text) :
    ∃ name ∈ side.firstWords, ∃ rest, text = name.toList ++ rest := by
  cases announces with
  | @word name known => exact ⟨name, List.mem_cons_of_mem _ known, [], (List.append_nil _).symm⟩
  | than => exact ⟨side.comparative, List.mem_cons_self, _, rfl⟩

theorem startsWithWord
    (announces : side.Announces text)
    (rest : Text) :
    Cursor.startsWithWord (text ++ rest) = true := by
  obtain ⟨name, known, others, rfl⟩ := announces.begins
  rw [List.append_assoc]
  exact startsWithWord_name_append side.areWords_firstWords known _

/-- What announces a limit holds neither a digit nor a dollar sign. -/
theorem of_mem
    {c : Char}
    (announces : side.Announces text)
    (member : c ∈ text) :
    isWordDigit c = false ∧ c ≠ '$' := by
  have names : ∀ name ∈ "than" :: side.firstWords, ∀ c ∈ name.toList,
      isWordDigit c = false ∧ c ≠ '$' := by
    cases side <;> decide
  cases announces with
  | word known => exact names _ (List.mem_cons_of_mem _ (List.mem_cons_of_mem _ known)) c member
  | than nonempty blank =>
      rcases List.mem_append.1 member with member | member
      · exact names side.comparative (by simp [firstWords]) c member
      · rcases List.mem_append.1 member with member | member
        · have space := isBlank_iff.1 blank c member
          refine ⟨isWordDigit_of_isWhiteSpace space, ?_⟩
          rintro rfl
          exact absurd space (by decide)
        · exact names "than" List.mem_cons_self c member

/-- Nor is there a digit in the white space after it. -/
theorem isWordDigit_append
    {gap : Text}
    {c : Char}
    (announces : side.Announces text)
    (blank : isBlank gap = true)
    (member : c ∈ text ++ gap) :
    isWordDigit c = false := by
  rcases List.mem_append.1 member with member | member
  · exact (announces.of_mem member).1
  · exact isWordDigit_of_isBlank blank member

/-- What announces a limit does not end in white space. -/
theorem endsVisible (announces : side.Announces text) : EndsVisible text := by
  cases announces with
  | word known =>
      have letters : ∀ name ∈ side.words, ∀ c ∈ name.toList.getLast?, isWhiteSpace c = false := by
        cases side <;> decide
      exact letters _ known
  | than =>
      have than : EndsVisible "than".toList := by
        unfold EndsVisible
        decide
      rw [← List.append_assoc]
      exact than.append (by decide) _

/-- The letters that what announces a limit ends in. -/
theorem exists_last (announces : side.Announces text) :
    ∃ c ∈ ['r', 'w', 'e', 'n'], text.getLast? = some c := by
  cases announces with
  | word known =>
      have letters : ∀ name ∈ side.words,
          ∃ c ∈ ['r', 'w', 'e', 'n'], name.toList.getLast? = some c := by
        cases side <;> simp [words]
      exact letters _ known
  | than => exact ⟨'n', by decide, by simp [List.getLast?_append]⟩

theorem ne_nil (announces : side.Announces text) : text ≠ [] := by
  rintro rfl
  exact absurd (announces.startsWithWord []) (by decide)

/-- No word of a limit ends in one of another kind. -/
theorem side_eq_of_suffix
    {first second : Side}
    {name name' : String}
    {whole : Text}
    (known : name ∈ first.firstWords)
    (known' : name' ∈ second.firstWords)
    (ends : name.toList <:+ whole)
    (ends' : name'.toList <:+ whole) :
    first = second := by
  have apart : ∀ name ∈ first.firstWords, ∀ name' ∈ second.firstWords,
      name.toList.isSuffixOf name'.toList || name'.toList.isSuffixOf name.toList →
        first = second := by
    cases first <;> cases second <;> decide
  apply apart name known name' known'
  rw [Bool.or_eq_true, List.isSuffixOf_iff_suffix, List.isSuffixOf_iff_suffix]
  exact List.suffix_or_suffix_of_suffix ends ends'

/-- No single word of a limit ends in "than", nor the other way round. -/
theorem not_than_suffix
    {side : Side}
    {name : String}
    {whole : Text}
    (known : name ∈ side.words)
    (ends : name.toList <:+ whole) :
    ¬"than".toList <:+ whole := by
  have apart : ∀ name ∈ side.words,
      (name.toList.isSuffixOf "than".toList || "than".toList.isSuffixOf name.toList) = false := by
    cases side <;> decide
  intro than
  have either := List.suffix_or_suffix_of_suffix ends than
  rw [← List.isSuffixOf_iff_suffix, ← List.isSuffixOf_iff_suffix, ← Bool.or_eq_true,
    apart name known] at either
  cases either

/-- A text ends in what announces a limit of one kind only. -/
theorem side_eq
    {first second : Side}
    {before before' text text' : Text}
    (announces : first.Announces text)
    (announces' : second.Announces text')
    (same : before ++ text = before' ++ text') :
    first = second := by
  have ends : text <:+ before ++ text := List.suffix_append _ _
  have ends' : text' <:+ before ++ text := by
    rw [same]
    exact List.suffix_append _ _
  cases announces with
  | word known =>
      cases announces' with
      | word known' =>
          exact side_eq_of_suffix (List.mem_cons_of_mem _ known) (List.mem_cons_of_mem _ known')
            ends ends'
      | than =>
          rw [← List.append_assoc] at ends'
          exact absurd ((List.suffix_append _ _).trans ends') (not_than_suffix known ends)
  | @than gap nonempty blank =>
      cases announces' with
      | word known' =>
          refine absurd ?_ (not_than_suffix known' ends')
          exact ⟨before ++ (first.comparative.toList ++ gap), by simp only [List.append_assoc]⟩
      | @than gap' nonempty' blank' =>
          -- Past "than" and the white space the two texts end in the comparatives.
          have visible : ∀ (side : Side) (before : Text),
              EndsVisible (before ++ side.comparative.toList) := by
            intro side
            cases side <;> exact EndsVisible.append (by unfold EndsVisible; decide) (by decide)
          have cut : before ++ first.comparative.toList ++ gap =
              before' ++ second.comparative.toList ++ gap' := by
            apply (List.append_left_inj "than".toList).1
            simpa only [List.append_assoc] using same
          have words := (eq_of_append_isBlank (visible first before) (visible second before')
            blank blank' cut).1
          refine side_eq_of_suffix List.mem_cons_self List.mem_cons_self
            (List.suffix_append before _) ?_
          rw [words]
          exact List.suffix_append _ _

end Announces

end Side
end Figure
end SearchPhrase
