import SearchPhrase.Proofs.Pattern.Takes
import SearchPhrase.Proofs.Unicode.Word

/-!
# Stretches of a text and the words in them

Of two stretches of one text that share a byte, one begins within the other.  Where they begin with
a word, that is at the beginning of a word of the other, which narrows down the places at which
texts of a known form can meet.
-/

namespace SearchPhrase
namespace Text

open Cursor Unicode

/-- A word begins at the place between two texts. -/
structure WordBegins (before after : Text) : Prop where
  /-- No word goes on from the text before the place. -/
  fresh : startsWithWord before.reverse = false
  /-- The text after the place begins with a word. -/
  starts : startsWithWord after = true

theorem startsWithWord_append
    {first : Text}
    (nonempty : first ≠ [])
    (second : Text) :
    startsWithWord (first ++ second) = startsWithWord first := by
  cases first with
  | nil => exact absurd rfl nonempty
  | cons c rest => rfl

theorem isWord_of_isBlank {gap : Text} (blank : isBlank gap = true) :
    ∀ c ∈ gap, isWord c = false :=
  fun c member => isWord_of_isWhiteSpace (isBlank_iff.1 blank c member)

/-- No word begins with white space. -/
theorem startsWithWord_gap_append
    {gap : Text}
    (spaced : gap ≠ [])
    (blank : isBlank gap = true)
    (rest : Text) :
    startsWithWord (gap ++ rest) = false := by
  obtain ⟨c, others, rfl⟩ := List.exists_cons_of_ne_nil spaced
  exact isWord_of_isBlank blank c List.mem_cons_self

theorem WordBegins.of_append
    {first second after : Text}
    (begins : WordBegins (first ++ second) after) :
    WordBegins second after := by
  refine ⟨?_, begins.starts⟩
  have fresh := begins.fresh
  by_cases nonempty : second = []
  · rw [nonempty]
    rfl
  · rwa [List.reverse_append, startsWithWord_append (by simpa using nonempty)] at fresh

theorem WordBegins.ne_nil
    {before after : Text}
    (begins : WordBegins before after) :
    after ≠ [] := by
  rintro rfl
  exact absurd begins.starts (by decide)

/-- No word begins within a word. -/
theorem WordBegins.eq_nil_of_solid
    {before after rest : Text}
    (begins : WordBegins before after)
    (solid : ∀ c ∈ before ++ rest, isWord c = true) :
    before = [] := by
  rcases List.eq_nil_or_concat before with same | ⟨front, c, rfl⟩
  · exact same
  · have fresh := begins.fresh
    have inWord := solid c (by simp)
    simp [startsWithWord, inWord] at fresh

/-- Where a word begins in a text whose first part is all word, that is at its start or past that
part. -/
theorem WordBegins.eq_nil_or_append
    {before after word rest : Text}
    (begins : WordBegins before after)
    (solid : ∀ c ∈ word, isWord c = true)
    (whole : before ++ after = word ++ rest) :
    (before = [] ∧ after = word ++ rest) ∨
      ∃ middle, before = word ++ middle ∧ middle ++ after = rest := by
  rcases List.append_eq_append_iff.1 whole with ⟨middle, split, tail⟩ | ⟨middle, split, tail⟩
  · have inWord : ∀ c ∈ before ++ middle, isWord c = true := by
      rw [← split]
      exact solid
    obtain rfl := begins.eq_nil_of_solid inWord
    exact .inl ⟨rfl, by simpa using whole⟩
  · exact .inr ⟨middle, split, tail.symm⟩

/-- A text that is made of known words and of characters that belong to no word. -/
inductive Phrased (Known : Text → Prop) : Text → Prop where
  /-- The empty text. -/
  | nil : Phrased Known []
  /-- A character that belongs to no word. -/
  | apart {c : Char} {rest : Text} (notWord : isWord c = false) (others : Phrased Known rest) :
      Phrased Known (c :: rest)
  /-- A known word. -/
  | word {word rest : Text} (known : Known word) (others : Phrased Known rest) :
      Phrased Known (word ++ rest)

theorem Phrased.append
    {Known : Text → Prop}
    {first second : Text}
    (left : Phrased Known first)
    (right : Phrased Known second) :
    Phrased Known (first ++ second) := by
  induction left with
  | nil => exact right
  | apart notWord _ ih => exact .apart notWord ih
  | word known _ ih =>
      rw [List.append_assoc]
      exact .word known ih

theorem Phrased.of_word
    {Known : Text → Prop}
    {word : Text}
    (known : Known word) :
    Phrased Known word := by
  have phrased : Phrased Known (word ++ []) := .word known .nil
  rwa [List.append_nil] at phrased

theorem Phrased.of_isBlank
    {Known : Text → Prop}
    {text : Text}
    (blank : isBlank text = true) :
    Phrased Known text := by
  induction text with
  | nil => exact .nil
  | cons c rest ih =>
      rw [isBlank, List.all_cons, Bool.and_eq_true] at blank
      exact .apart (isWord_of_isWhiteSpace blank.1) (ih blank.2)

/-- Where a word begins within a text made of known words, or after it, it is a known word, or the
place lies after the text. -/
theorem Phrased.word_of_cut
    {Known : Text → Prop}
    {text before after rest : Text}
    (phrased : Phrased Known text)
    (solid : ∀ word, Known word → ∀ c ∈ word, isWord c = true)
    (whole : before ++ after = text ++ rest)
    (begins : WordBegins before after) :
    (∃ word, Known word ∧ ∃ tail, after = word ++ tail) ∨
      ∃ middle, before = text ++ middle ∧ middle ++ after = rest := by
  induction phrased generalizing before with
  | nil => exact .inr ⟨before, rfl, whole⟩
  | @apart c others notWord _ ih =>
      cases before with
      | nil =>
          -- The text after the place would begin with a character of no word.
          have starts := begins.starts
          rw [List.nil_append] at whole
          rw [whole, List.cons_append, startsWithWord, notWord] at starts
          simp at starts
      | cons d before =>
          obtain ⟨rfl, tail⟩ := List.cons.inj whole
          have later : WordBegins ([d] ++ before) after := begins
          rcases ih tail later.of_append with known | ⟨middle, rfl, same⟩
          · exact .inl known
          · exact .inr ⟨middle, rfl, same⟩
  | @word word others known _ ih =>
      rw [List.append_assoc] at whole
      rcases begins.eq_nil_or_append (solid word known) whole with ⟨-, same⟩ | ⟨middle, rfl, tail⟩
      · exact .inl ⟨word, known, others ++ rest, same⟩
      · rcases ih tail begins.of_append with found | ⟨later, rfl, same⟩
        · exact .inl found
        · exact .inr ⟨later, by simp, same⟩

/-- A character that a first part does not hold lies in what comes after it. -/
theorem exists_of_append_cons
    {first second before after : Text}
    {c : Char}
    (absent : c ∉ first)
    (whole : first ++ second = before ++ c :: after) :
    ∃ part, before = first ++ part ∧ second = part ++ c :: after := by
  rcases List.append_eq_append_iff.1 whole with ⟨part, split, tail⟩ | ⟨part, split, tail⟩
  · exact ⟨part, split, tail⟩
  · cases part with
    | nil => exact ⟨[], by simpa using split.symm, by simpa using tail.symm⟩
    | cons d part =>
        obtain ⟨rfl, -⟩ := List.cons.inj tail
        exact absurd (by simp [split]) absent

theorem takeWhile_append_of_stops
    {kind : Char → Bool}
    {first rest : Text}
    (all : ∀ c ∈ first, kind c = true)
    (stops : ∀ c ∈ rest.head?, kind c = false) :
    (first ++ rest).takeWhile kind = first := by
  rw [List.takeWhile_append_of_pos all]
  cases rest with
  | nil => exact List.append_nil first
  | cons c rest => simp [stops c rfl]

/-- First parts of a kind are the same in two texts that are, if both end where the kind does. -/
theorem append_inj_of_kind
    {kind : Char → Bool}
    {first second rest rest' : Text}
    (all : ∀ c ∈ first, kind c = true)
    (all' : ∀ c ∈ second, kind c = true)
    (stops : ∀ c ∈ rest.head?, kind c = false)
    (stops' : ∀ c ∈ rest'.head?, kind c = false)
    (same : first ++ rest = second ++ rest') :
    first = second ∧ rest = rest' := by
  have parts : first = second := by
    rw [← takeWhile_append_of_stops all stops, same, takeWhile_append_of_stops all' stops']
  subst parts
  exact ⟨rfl, List.append_cancel_left same⟩

theorem byteLength_pos {text : Text} (nonempty : text ≠ []) : 0 < byteLength text := by
  cases text with
  | nil => exact absurd rfl nonempty
  | cons c rest =>
      have positive := c.utf8Size_pos
      rw [byteLength_cons]
      omega

end Text

/-- One stretch lies between the ends of another one. -/
def Span.Covers (outer inner : Span) : Prop :=
  outer.start ≤ inner.start ∧ inner.stop ≤ outer.stop

/-- A stretch of a text, between what lies before it and what lies after it. -/
structure Stretch (text : Text) where
  /-- The text before the stretch. -/
  before : Text
  /-- The text of the stretch. -/
  body : Text
  /-- The text after the stretch. -/
  after : Text
  /-- Together they are the whole text. -/
  whole : before ++ (body ++ after) = text

namespace Stretch

open Text

variable {text : Text}

/-- Where a stretch stands. -/
def span (stretch : Stretch text) : Span :=
  ⟨byteLength stretch.before, byteLength stretch.before + byteLength stretch.body⟩

/-- The stretch of an occurrence. -/
def ofMatch {pattern : Pattern} {found : Match} (member : found ∈ pattern.findAll text) :
    Stretch text where
  before := found.before.reverse
  body := found.text
  after := found.after
  whole := by
    rw [← List.append_assoc]
    exact (Pattern.whole_of_mem_findAll member).1

theorem span_ofMatch
    {pattern : Pattern}
    {found : Match}
    (member : found ∈ pattern.findAll text) :
    (ofMatch member).span = found.span := by
  simp [span, ofMatch, Match.span]

/-- The part of a stretch between two others. -/
def part
    (outer : Stretch text)
    {head body tail : Text}
    (split : outer.body = head ++ (body ++ tail)) :
    Stretch text where
  before := outer.before ++ head
  body := body
  after := tail ++ outer.after
  whole := by
    have whole := outer.whole
    rw [split] at whole
    simpa only [List.append_assoc] using whole

/-- A part of a stretch lies between its ends. -/
theorem covers_part
    {outer : Stretch text}
    {head body tail : Text}
    (split : outer.body = head ++ (body ++ tail)) :
    outer.span.start ≤ (outer.part split).span.start ∧
      (outer.part split).span.stop ≤ outer.span.stop := by
  simp only [span, part, split, byteLength_append]
  omega

/-- So does a part of an occurrence. -/
theorem covers_part_ofMatch
    {pattern : Pattern}
    {found : Match}
    {head body tail : Text}
    (member : found ∈ pattern.findAll text)
    (split : found.text = head ++ (body ++ tail)) :
    found.span.Covers (part (ofMatch member) split).span := by
  rw [← span_ofMatch member]
  exact covers_part split

/-- A stretch that begins a given way into another one, and before its end, begins with the rest of
it. -/
theorem exists_rest_of_lt
    {first second : Stretch text}
    {head : Text}
    (later : second.before = first.before ++ head)
    (within : second.span.start < first.span.stop) :
    ∃ rest, first.body = head ++ rest ∧ rest ≠ [] ∧
      rest ++ first.after = second.body ++ second.after := by
  have whole : first.body ++ first.after = head ++ (second.body ++ second.after) := by
    have same := first.whole.trans second.whole.symm
    rw [later, List.append_assoc] at same
    exact List.append_cancel_left same
  rw [span, span, later, byteLength_append] at within
  dsimp only at within
  rcases List.append_eq_append_iff.1 whole with ⟨beyond, split, -⟩ | ⟨rest, split, tail⟩
  · rw [split, byteLength_append] at within
    omega
  · refine ⟨rest, split, ?_, tail.symm⟩
    rintro rfl
    rw [split, List.append_nil] at within
    omega

/-- One of two stretches that meet begins within the other. -/
theorem exists_rest_of_meets
    (first second : Stretch text)
    (meets : first.span.meets second.span = true) :
    (∃ head rest, second.before = first.before ++ head ∧ first.body = head ++ rest ∧ rest ≠ [] ∧
        rest ++ first.after = second.body ++ second.after) ∨
      ∃ head rest, first.before = second.before ++ head ∧ second.body = head ++ rest ∧
        rest ≠ [] ∧ rest ++ second.after = first.body ++ first.after := by
  obtain ⟨firstWithin, secondWithin⟩ := Span.meets_iff.1 meets
  have same := first.whole.trans second.whole.symm
  rcases List.append_eq_append_iff.1 same with ⟨head, later, -⟩ | ⟨head, later, -⟩
  · obtain ⟨rest, split, nonempty, tail⟩ := exists_rest_of_lt later secondWithin
    exact .inl ⟨head, rest, later, split, nonempty, tail⟩
  · obtain ⟨rest, split, nonempty, tail⟩ := exists_rest_of_lt later firstWithin
    exact .inr ⟨head, rest, later, split, nonempty, tail⟩

/-- A stretch that lies between the ends of another one is a part of it. -/
theorem exists_split_of_covers
    {outer inner : Stretch text}
    (starts : outer.span.start ≤ inner.span.start)
    (stops : inner.span.stop ≤ outer.span.stop) :
    ∃ head tail, inner.before = outer.before ++ head ∧
      outer.body = head ++ (inner.body ++ tail) ∧ inner.after = tail ++ outer.after := by
  have same := outer.whole.trans inner.whole.symm
  simp only [span] at starts stops
  have later : ∃ head, inner.before = outer.before ++ head ∧
      outer.body ++ outer.after = head ++ (inner.body ++ inner.after) := by
    rcases List.append_eq_append_iff.1 same with ⟨head, split, tail⟩ | ⟨head, split, tail⟩
    · exact ⟨head, split, tail⟩
    · cases head with
      | nil => exact ⟨[], by simpa using split.symm, by simpa using tail.symm⟩
      | cons c head =>
          have positive := byteLength_pos (List.cons_ne_nil c head)
          rw [split, byteLength_append] at starts
          omega
  obtain ⟨head, split, tail⟩ := later
  rw [split, byteLength_append] at stops
  rw [← List.append_assoc] at tail
  rcases List.append_eq_append_iff.1 tail with ⟨beyond, split', tail'⟩ | ⟨rest, split', tail'⟩
  · cases beyond with
    | nil => exact ⟨head, [], split, by simpa using split'.symm, by simpa using tail'.symm⟩
    | cons c beyond =>
        have lengths := congrArg byteLength split'
        have positive := byteLength_pos (List.cons_ne_nil c beyond)
        rw [byteLength_append, byteLength_append] at lengths
        omega
  · exact ⟨head, rest, split, by rw [split', List.append_assoc], tail'⟩

/-- A stretch that an occurrence takes up, or takes in, is a part of it. -/
theorem exists_split_of_mem
    {pattern : Pattern}
    {found : Match}
    {inner : Stretch text}
    (member : found ∈ pattern.findAll text)
    (covers : found.span.Covers inner.span) :
    ∃ head tail, inner.before = found.before.reverse ++ head ∧
      found.text = head ++ (inner.body ++ tail) ∧ inner.after = tail ++ found.after := by
  rw [← span_ofMatch member] at covers
  exact exists_split_of_covers covers.1 covers.2

/-- What lies before a stretch, as a stretch. -/
def leading (stretch : Stretch text) : Stretch text where
  before := []
  body := stretch.before
  after := stretch.body ++ stretch.after
  whole := stretch.whole

/-- What lies after a stretch, as a stretch. -/
def trailing (stretch : Stretch text) : Stretch text where
  before := stretch.before ++ stretch.body
  body := stretch.after
  after := []
  whole := by simpa using stretch.whole

/-- A stretch that holds a character which stands neither before nor after another one meets it. -/
theorem meets_of_mem
    {first second : Stretch text}
    {c : Char}
    (member : c ∈ first.body)
    (before : c ∉ second.before)
    (after : c ∉ second.after) :
    second.span.meets first.span = true := by
  have lengths := congrArg byteLength (first.whole.trans second.whole.symm)
  simp only [byteLength_append] at lengths
  apply Span.meets_iff.2
  constructor
  · apply Nat.lt_of_not_le
    intro past
    have stops : first.span.stop ≤ second.leading.span.stop := by
      simpa [span, leading] using past
    obtain ⟨head, tail, -, split, -⟩ := exists_split_of_covers (Nat.zero_le _) stops
    have part : second.before = head ++ (first.body ++ tail) := split
    exact before (by simp [part, member])
  · apply Nat.lt_of_not_le
    intro past
    have starts : second.trailing.span.start ≤ first.span.start := by
      simpa [span, trailing] using past
    have stops : first.span.stop ≤ second.trailing.span.stop := by
      simp only [span, trailing, byteLength_append]
      omega
    obtain ⟨head, tail, -, split, -⟩ := exists_split_of_covers starts stops
    have part : second.after = head ++ (first.body ++ tail) := split
    exact after (by simp [part, member])

end Stretch
end SearchPhrase
