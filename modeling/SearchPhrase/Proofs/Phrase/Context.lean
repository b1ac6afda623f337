import SearchPhrase.Proofs.Pattern.Occurrences
import SearchPhrase.Proofs.Phrase.Figures

/-!
# Phrases about vehicles

A phrase is about vehicles or mileage when one of a list of words stands in it by itself.  A
character that belongs to no word divides a phrase into two, either of which may hold the word.
-/

namespace SearchPhrase
namespace Mileage

open Cursor Figure Pattern Text Unicode

/-- A word that makes a phrase one about vehicles or mileage. -/
inductive IsContextWord : Text → Prop where
  /-- It names a vehicle. -/
  | vehicle {name : String} (known : name ∈ vehicleWords) : IsContextWord name.toList
  /-- It names several vehicles. -/
  | vehicles {name : String} (known : name ∈ vehicleWords) : IsContextWord (name.toList ++ ['s'])
  /-- It marks a distance. -/
  | distance {name : String} (known : name ∈ distanceWords) : IsContextWord name.toList

namespace IsContextWord

variable {word : Text}

theorem of_areWords (isContext : IsContextWord word) :
    word ≠ [] ∧ (∀ c ∈ word, isWord c = true) ∧ startsWithDigit word = false := by
  cases isContext with
  | vehicle known => exact Text.of_areWords (by decide : areWords vehicleWords) known
  | distance known => exact Text.of_areWords (by decide : areWords distanceWords) known
  | vehicles known =>
      obtain ⟨nonempty, solid, letter⟩ :=
        Text.of_areWords (by decide : areWords vehicleWords) known
      refine ⟨by simp, ?_, by rwa [startsWithDigit_append nonempty]⟩
      intro c member
      rcases List.mem_append.1 member with member | member
      · exact solid c member
      · rw [List.mem_singleton.1 member]
        decide

theorem startsWithWord_append
    (isContext : IsContextWord word)
    (rest : Text) :
    startsWithWord (word ++ rest) = true := by
  obtain ⟨nonempty, solid, -⟩ := isContext.of_areWords
  cases word with
  | nil => exact absurd rfl nonempty
  | cons c others => exact solid c (by simp)

theorem startsWithWord_reverse_append
    (isContext : IsContextWord word)
    (rest : Text) :
    startsWithWord (word.reverse ++ rest) = true := by
  obtain ⟨nonempty, solid, -⟩ := isContext.of_areWords
  obtain ⟨init, c, rfl⟩ := (List.eq_nil_or_concat word).resolve_left nonempty
  simpa [startsWithWord] using solid c (by simp)

end IsContextWord

/-- A word of context stands by itself wherever its pattern takes it. -/
theorem takes_contextWord
    {before middle after : Text} :
    contextWord.Takes before middle after ↔
      startsWithWord before = false ∧ IsContextWord middle ∧ startsWithWord after = false := by
  rw [contextWord, takes_bounded]
  have words : (alt (oneOf vehicleWords ++ opt (only 's')) distanceUnit).Takes before middle after ↔
      IsContextWord middle := by
    rw [takes_alt]
    constructor
    · rintro (⟨_, plural, rfl, isVehicle, isPlural⟩ | isDistance)
      · obtain ⟨name, known, rfl⟩ := takes_oneOf.1 isVehicle
        rcases takes_opt.1 isPlural with several | rfl
        · rw [takes_only.1 several]
          exact .vehicles known
        · rw [List.append_nil]
          exact .vehicle known
      · obtain ⟨name, known, rfl⟩ := takes_oneOf.1 isDistance
        exact .distance known
    · intro isContext
      cases isContext with
      | @vehicle name known =>
          exact .inl ⟨_, [], (List.append_nil _).symm, takes_oneOf.2 ⟨name, known, rfl⟩, .inr rfl⟩
      | @vehicles name known =>
          exact .inl ⟨_, ['s'], rfl, takes_oneOf.2 ⟨name, known, rfl⟩, .inl (takes_only.2 rfl)⟩
      | @distance name known => exact .inr (takes_oneOf.2 ⟨name, known, rfl⟩)
  rw [words]
  constructor
  · rintro ⟨opens, isContext, closes⟩
    exact ⟨startsWithWord_eq_false_of_atBoundary opens (isContext.startsWithWord_append after),
      isContext,
      startsWithWord_eq_false_of_atBoundary' closes (isContext.startsWithWord_reverse_append _)⟩
  · rintro ⟨fresh, isContext, ended⟩
    refine ⟨?_, isContext, ?_⟩
    · simp [atBoundary, fresh, isContext.startsWithWord_append after]
    · simp [atBoundary, ended, isContext.startsWithWord_reverse_append before]

/-- A phrase is about vehicles or mileage where a word of context stands in it by itself. -/
theorem hasContext_iff {text : Text} :
    hasContext text = true ↔ ∃ before word after, before ++ (word ++ after) = text ∧
      startsWithWord before.reverse = false ∧ IsContextWord word ∧
        startsWithWord after = false := by
  rw [hasContext, occursIn_iff (by decide)]
  constructor
  · rintro ⟨before, word, after, whole, takes⟩
    refine ⟨before.reverse, word, after, whole, ?_⟩
    rw [List.reverse_reverse]
    exact takes_contextWord.1 takes
  · rintro ⟨before, word, after, whole, stands⟩
    exact ⟨before.reverse, word, after, by rwa [List.reverse_reverse], takes_contextWord.2 stands⟩

/-- A word on one side of a character that belongs to no word, or on the other. -/
theorem cut_of_separator
    {before word after first second : Text}
    {c : Char}
    (separates : isWord c = false)
    (nonempty : word ≠ [])
    (solid : ∀ d ∈ word, isWord d = true)
    (whole : before ++ (word ++ after) = first ++ c :: second) :
    (∃ rest, first = before ++ (word ++ rest) ∧ after = rest ++ c :: second) ∨
      ∃ rest, before = first ++ c :: rest ∧ second = rest ++ (word ++ after) := by
  have absent : c ∉ word := by
    intro member
    simp [solid c member] at separates
  rcases List.append_eq_append_iff.1 whole with ⟨part, split, tail⟩ | ⟨part, split, tail⟩
  · rcases List.append_eq_append_iff.1 tail with ⟨rest, split', tail'⟩ | ⟨rest, split', tail'⟩
    · exact .inl ⟨rest, by rw [split, split'], tail'⟩
    · cases rest with
      | nil => exact .inl ⟨[], by simp [split, split'], by simpa using tail'.symm⟩
      | cons d rest =>
          obtain ⟨rfl, -⟩ := List.cons.inj tail'
          exact absurd (by simp [split']) absent
  · cases part with
    | nil =>
        obtain ⟨d, others, rfl⟩ := List.exists_cons_of_ne_nil nonempty
        obtain ⟨rfl, -⟩ := List.cons.inj tail
        exact absurd (by simp) absent
    | cons d rest =>
        obtain ⟨rfl, same⟩ := List.cons.inj tail
        exact .inr ⟨rest, split, same⟩

/-- A phrase that is divided by a character of no word is about vehicles if either part is. -/
theorem hasContext_append
    {c : Char}
    (separates : isWord c = false)
    (first second : Text) :
    hasContext (first ++ c :: second) = (hasContext first || hasContext second) := by
  rw [Bool.eq_iff_iff, Bool.or_eq_true, hasContext_iff, hasContext_iff, hasContext_iff]
  constructor
  · rintro ⟨before, word, after, whole, fresh, isContext, ended⟩
    obtain ⟨nonempty, solid, -⟩ := isContext.of_areWords
    rcases cut_of_separator separates nonempty solid whole with ⟨rest, rfl, rfl⟩ | ⟨rest, rfl, rfl⟩
    · refine .inl ⟨before, word, rest, rfl, fresh, isContext, ?_⟩
      cases rest with
      | nil => rfl
      | cons d rest => exact ended
    · refine .inr ⟨rest, word, after, rfl, ?_, isContext, ended⟩
      cases restShape : rest.reverse with
      | nil => rfl
      | cons d others => simpa [restShape, startsWithWord] using fresh
  · rintro (⟨before, word, after, rfl, fresh, isContext, ended⟩ |
      ⟨before, word, after, rfl, fresh, isContext, ended⟩)
    · refine ⟨before, word, after ++ c :: second, by simp, fresh, isContext, ?_⟩
      cases after with
      | nil => exact separates
      | cons d after => exact ended
    · refine ⟨first ++ c :: before, word, after, by simp, ?_, isContext, ended⟩
      cases shape : before.reverse with
      | nil => simp [shape, startsWithWord, separates]
      | cons d others => simpa [shape, startsWithWord] using fresh

/-- A single word that begins with a digit is no word of context. -/
theorem hasContext_eq_false_of_digit
    {text : Text}
    (solid : ∀ c ∈ text, isWord c = true)
    (digit : startsWithDigit text = true) :
    hasContext text = false := by
  apply Bool.eq_false_iff.2
  intro context
  obtain ⟨before, word, after, rfl, fresh, isContext, -⟩ := hasContext_iff.1 context
  obtain ⟨nonempty, -, letter⟩ := isContext.of_areWords
  have begins : WordBegins before (word ++ after) := ⟨fresh, isContext.startsWithWord_append after⟩
  obtain rfl := begins.eq_nil_of_solid solid
  rw [List.nil_append, startsWithDigit_append nonempty, letter] at digit
  cases digit

end Mileage
end SearchPhrase
