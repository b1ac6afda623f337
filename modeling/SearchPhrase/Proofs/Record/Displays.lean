import Mathlib.Data.Option.Basic
import SearchPhrase.Proofs.Amount.Grouped
import SearchPhrase.Proofs.Record.Identity

/-!
# Displayed ranges

A range is displayed in one of several forms, which the hyphen between two values and the words
before a single one tell apart.  No value is displayed with a hyphen or with a letter that these
words begin with, so that the ends of a range can be read off its display.
-/

namespace SearchPhrase

theorem Amount.grouped_injective : Function.Injective grouped := by
  intro first second same
  apply UInt64.toNat_inj.1
  apply Text.numeral_injective
  rw [← filter_grouped, same, filter_grouped]

namespace FilterRecord

/-- What stands in a displayed range besides values. -/
def rangeWords : Text :=
  "from up to-".toList

/-- Whether a character may occur in a displayed value. -/
def isFigural (c : Char) : Bool :=
  c.isDigit || [',', '$', ' ', 'k', 'm'].contains c

/-- The displayed ends of a displayed range. -/
def shownEnds (text : Text) : Bounds Text :=
  if text.head? = some 'f' then { lower := some (text.drop "from ".toList.length) }
  else if text.head? = some 'u' then { upper := some (text.drop "up to ".toList.length) }
  else
    let (first, second) := Text.cutAt '-' text
    { lower := some first, upper := some (second.getD first) }

/-- What does not begin like the words for a single end shows one value or two. -/
theorem shownEnds_of_cut
    {text first : Text}
    {second : Option Text}
    (opens : ∀ mark ∈ ['f', 'u'], text.head? ≠ some mark)
    (cut : Text.cutAt '-' text = (first, second)) :
    shownEnds text = { lower := some first, upper := some (second.getD first) } := by
  rw [shownEnds, if_neg (opens 'f' (by decide)), if_neg (opens 'u' (by decide)), cut]

/-- Values are known from their displays, and have a display of their own kind of characters. -/
structure IsPlain {α : Type} (display : α → Text) : Prop where
  /-- Different values are displayed differently. -/
  injective : Function.Injective display
  /-- Values are displayed as figures. -/
  figural : ∀ value, ∀ c ∈ display value, isFigural c = true

namespace IsPlain

variable {α : Type} {display : α → Text} (plain : IsPlain display)

include plain

theorem not_mem {c : Char} (other : isFigural c = false) (value : α) : c ∉ display value := by
  intro member
  rw [plain.figural value c member] at other
  exact absurd other.symm Bool.false_ne_true

/-- A value, also with a hyphen behind it, does not begin like the words for a single end. -/
theorem head?_append_ne
    (value : α)
    {rest : Text}
    (goesOn : ∀ c ∈ rest.head?, c = '-') :
    ∀ mark ∈ ['f', 'u'], (display value ++ rest).head? ≠ some mark := by
  have other : ∀ c ∈ ['f', 'u'], isFigural c = false ∧ c ≠ '-' := by decide
  intro mark opens head
  rw [List.head?_append, Option.or_eq_some_iff] at head
  rcases head with shown | ⟨-, after⟩
  · exact plain.not_mem (other mark opens).1 value (List.mem_of_head? shown)
  · exact (other mark opens).2 (goesOn mark after)

/-- A displayed range shows its ends. -/
theorem shownEnds_describe? [DecidableEq α] (bounds : Bounds α) :
    (bounds.describe? display).elim {} shownEnds =
      ⟨bounds.lower.map display, bounds.upper.map display⟩ := by
  have hyphen : ∀ value, '-' ∉ display value := plain.not_mem (by decide)
  obtain ⟨_ | low, _ | high⟩ := bounds
  case none.none => rfl
  case none.some => rfl
  case some.none => rfl
  case some.some =>
      by_cases same : low = high
      · have ends : ∀ c ∈ ([] : Text).head?, c = '-' := by simp
        have opens := plain.head?_append_ne high ends
        rw [List.append_nil] at opens
        have shown := shownEnds_of_cut opens (Text.cutAt_of_not_mem (hyphen high))
        simpa [Bounds.describe?, same] using shown
      · have goesOn : ∀ c ∈ ('-' :: display high).head?, c = '-' := by simp
        have shown := shownEnds_of_cut (plain.head?_append_ne low goesOn)
          (Text.cutAt_append_cons (hyphen low) (display high))
        simpa [Bounds.describe?, same] using shown

/-- Ranges are known from their displays. -/
theorem describe?_injective [DecidableEq α] :
    Function.Injective fun bounds : Bounds α => bounds.describe? display := by
  intro bounds bounds' same
  have ends := congrArg (fun shown : Option Text => shown.elim {} shownEnds) same
  simp only [plain.shownEnds_describe?, Bounds.mk.injEq] at ends
  have known := Option.map_injective plain.injective
  cases bounds with
  | mk lower upper =>
      cases bounds' with
      | mk lower' upper' =>
          obtain rfl : lower = lower' := known ends.1
          obtain rfl : upper = upper' := known ends.2
          rfl

/-- What is neither in a value nor in the words of a range is not in a displayed range. -/
theorem not_mem_describe?
    [DecidableEq α]
    {bounds : Bounds α}
    {text : Text}
    {c : Char}
    (other : isFigural c = false ∧ c ∉ rangeWords)
    (described : bounds.describe? display = some text) :
    c ∉ text := by
  have absent : ∀ value, c ∉ display value := plain.not_mem other.1
  have parts : "from ".toList ⊆ rangeWords ∧ "up to ".toList ⊆ rangeWords ∧ '-' ∈ rangeWords := by
    decide
  obtain ⟨_ | low, _ | high⟩ := bounds
  case none.none => simp [Bounds.describe?] at described
  case none.some =>
      obtain rfl := Option.some.inj described
      rw [List.mem_append, not_or]
      exact ⟨fun member => other.2 (parts.2.1 member), absent high⟩
  case some.none =>
      obtain rfl := Option.some.inj described
      rw [List.mem_append, not_or]
      exact ⟨fun member => other.2 (parts.1 member), absent low⟩
  case some.some =>
      have between : c ≠ '-' := fun same => other.2 (same ▸ parts.2.2)
      by_cases same : low = high
      · simp only [Bounds.describe?, same, if_true, Option.some.injEq] at described
        exact described ▸ absent high
      · simp only [Bounds.describe?, same, if_false, Option.some.injEq] at described
        simp [← described, absent, between]

end IsPlain

theorem isPlain_displayYear : IsPlain displayYear where
  injective := fun _ _ same => UInt32.toNat_inj.1 (Text.numeral_injective same)
  figural := by
    intro year c member
    simp [isFigural, Text.isDigit_of_mem_numeral member]

theorem isFigural_of_mem_grouped {amount : UInt64} {c : Char} (member : c ∈ Amount.grouped amount) :
    isFigural c = true := by
  rcases Amount.mem_grouped member with digit | rfl
  · simp [isFigural, digit]
  · decide

theorem isPlain_displayPrice : IsPlain displayPrice where
  injective := fun _ _ same => Amount.grouped_injective (List.cons.inj same).2
  figural := by
    intro price c member
    rcases List.mem_cons.1 member with rfl | inAmount
    · decide
    · exact isFigural_of_mem_grouped inAmount

theorem isPlain_displayDistance : IsPlain displayDistance where
  injective := fun _ _ same => Amount.grouped_injective (List.append_cancel_right same)
  figural := by
    have unit : ∀ c ∈ " km".toList, isFigural c = true := by decide
    intro distance c member
    rcases List.mem_append.1 member with inAmount | inUnit
    · exact isFigural_of_mem_grouped inAmount
    · exact unit c inUnit

end FilterRecord
end SearchPhrase
