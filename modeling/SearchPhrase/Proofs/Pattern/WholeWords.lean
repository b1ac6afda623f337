import SearchPhrase.Pattern.Search
import SearchPhrase.Proofs.Pattern.Occurrences
import SearchPhrase.Proofs.Phrase.Claims
import SearchPhrase.Proofs.Text.Stretch

/-!
# Whole words and where they stand

An entry of a list occurs in a text where a stretch holds it with an edge of a word at either end.
The search for it finds the leftmost such stretch, and nothing only if there is none.
-/

namespace SearchPhrase

open Cursor Pattern Text

namespace Stretch

variable {text : Text}

/-- There is an edge of a word at either end of a stretch. -/
structure IsWhole (stretch : Stretch text) : Prop where
  /-- There is one where it begins. -/
  opens : atBoundary ⟨stretch.before.reverse, stretch.body ++ stretch.after⟩ = true
  /-- There is one where it ends. -/
  closes : atBoundary ⟨(stretch.before ++ stretch.body).reverse, stretch.after⟩ = true

/-- A stretch holds an entry of a list as whole words. -/
structure Holds (stretch : Stretch text) (entry : String) : Prop where
  /-- It is the entry. -/
  body : stretch.body = entry.toList
  /-- It stands as whole words. -/
  isWhole : stretch.IsWhole

/-- A stretch is the leftmost one of a kind. -/
structure IsLeftmost (kind : Stretch text → Prop) (stretch : Stretch text) : Prop where
  /-- It is of the kind. -/
  isOne : kind stretch
  /-- No other of the kind begins before it. -/
  first : ∀ other, kind other → stretch.before.length ≤ other.before.length

theorem before_eq_of_length_eq
    {first second : Stretch text}
    (same : first.before.length = second.before.length) :
    first.before = second.before ∧ first.body ++ first.after = second.body ++ second.after :=
  List.append_inj (first.whole.trans second.whole.symm) same

/-- Leftmost stretches of one kind begin at one place. -/
theorem IsLeftmost.before_eq
    {kind : Stretch text → Prop}
    {first second : Stretch text}
    (leftmost : first.IsLeftmost kind)
    (other : second.IsLeftmost kind) :
    first.before = second.before :=
  (before_eq_of_length_eq
    (Nat.le_antisymm (leftmost.first _ other.isOne) (other.first _ leftmost.isOne))).1

theorem span_eq
    {first second : Stretch text}
    (before : first.before = second.before)
    (body : first.body = second.body) :
    first.span = second.span := by
  rw [span, span, before, body]

end Stretch

/-- An entry of a list stands in a text as whole words. -/
def Occurs (text : Text) (entry : String) : Prop :=
  ∃ stretch : Stretch text, stretch.Holds entry

namespace Pattern

variable {text : Text} {entry : String} {span : Span}

/-- Whole words are taken exactly at the stretches that hold them. -/
theorem takes_wholeWord_iff {stretch : Stretch text} :
    (wholeWord entry).Takes stretch.before.reverse stretch.body stretch.after ↔
      stretch.Holds entry := by
  rw [wholeWord, takes_bounded, takes_literal, ← List.reverse_append]
  constructor
  · rintro ⟨opens, body, closes⟩
    exact ⟨body, opens, closes⟩
  · rintro ⟨body, opens, closes⟩
    exact ⟨opens, body, closes⟩

theorem holds_ofMatch
    {found : Match}
    (member : found ∈ (wholeWord entry).findAll text) :
    (Stretch.ofMatch member).Holds entry := by
  apply takes_wholeWord_iff.1
  rw [Stretch.ofMatch, List.reverse_reverse]
  exact takes_of_mem_findAll member

variable (visible : (wholeWord entry).isVisible = true)

include visible

theorem occursIn_wholeWord_iff : (wholeWord entry).occursIn text = true ↔ Occurs text entry := by
  rw [occursIn, Option.isSome_iff_exists]
  constructor
  · rintro ⟨found, first⟩
    exact ⟨_, holds_ofMatch (mem_findAll_of_find? first)⟩
  · rintro ⟨stretch, holds⟩
    obtain ⟨found, member, -⟩ := exists_found_of_takes visible
      (by rw [List.reverse_reverse, stretch.whole]) (takes_wholeWord_iff.2 holds)
    exact exists_find?_eq_some member

theorem wholeWordSpan?_eq_none_iff : wholeWordSpan? entry text = none ↔ ¬Occurs text entry := by
  rw [← occursIn_wholeWord_iff visible, occursIn, wholeWordSpan?, Option.map_eq_none_iff,
    Bool.not_eq_true, Option.isSome_eq_false_iff, Option.isNone_iff_eq_none]

/-- Whole words are found at the leftmost stretch that holds them. -/
theorem exists_isLeftmost_of_find?
    {found : Match}
    (first : (wholeWord entry).find? text = some found) :
    ∃ stretch : Stretch text, stretch.IsLeftmost (Stretch.Holds · entry) ∧
      stretch.span = found.span := by
  have member := mem_findAll_of_find? first
  refine ⟨.ofMatch member, ⟨holds_ofMatch member, ?_⟩, Stretch.span_ofMatch member⟩
  intro other holds
  have later := length_le_of_find? visible first (by rw [List.reverse_reverse, other.whole])
    (takes_wholeWord_iff.2 holds)
  simpa [Stretch.ofMatch] using later

theorem wholeWordSpan?_eq_some_iff :
    wholeWordSpan? entry text = some span ↔
      ∃ stretch : Stretch text, stretch.IsLeftmost (Stretch.Holds · entry) ∧
        stretch.span = span := by
  constructor
  · intro isFound
    obtain ⟨found, first, rfl⟩ := Option.map_eq_some_iff.1 isFound
    exact exists_isLeftmost_of_find? visible first
  · rintro ⟨stretch, leftmost, rfl⟩
    cases isFound : wholeWordSpan? entry text with
    | none =>
        exact absurd ⟨stretch, leftmost.isOne⟩ ((wholeWordSpan?_eq_none_iff visible).1 isFound)
    | some span =>
        obtain ⟨found, first, rfl⟩ := Option.map_eq_some_iff.1 isFound
        obtain ⟨other, isFirst, place⟩ := exists_isLeftmost_of_find? visible first
        rw [← place, Stretch.span_eq (isFirst.before_eq leftmost)
          (isFirst.isOne.body.trans leftmost.isOne.body.symm)]

end Pattern

end SearchPhrase
