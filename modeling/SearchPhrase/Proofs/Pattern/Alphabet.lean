import SearchPhrase.Proofs.Pattern.Folded
import SearchPhrase.Proofs.Text.Lowered

/-!
# The characters of a pattern

Most patterns take digits, white space and a few letters and signs, and nothing else.  What such a
pattern takes of a phrase without regard to case it takes of the phrase in lower case too.
-/

namespace SearchPhrase

open Text Unicode

/-- Whether all that a class accepts, digits and white space aside, is of a kind. -/
def CharClass.isWithin (kind : Char → Bool) : CharClass → Bool
  | only c => kind c
  | folded _ => false
  | digit => true
  | space => true
  | either left right => left.isWithin kind && right.isWithin kind

theorem CharClass.kind_of_accepts
    {kind : Char → Bool}
    {cls : CharClass}
    {c : Char}
    (digits : ∀ c, isWordDigit c = true → kind c = true)
    (spaces : ∀ c, isWhiteSpace c = true → kind c = true)
    (within : cls.isWithin kind = true)
    (accepted : cls.accepts c = true) :
    kind c = true := by
  induction cls with
  | only d =>
      obtain rfl := beq_iff_eq.1 accepted
      exact within
  | folded d => exact absurd within Bool.false_ne_true
  | digit => exact digits c accepted
  | space => exact spaces c accepted
  | either left right ihLeft ihRight =>
      rw [isWithin, Bool.and_eq_true] at within
      rw [accepts, Bool.or_eq_true] at accepted
      exact accepted.elim (ihLeft within.1) (ihRight within.2)

namespace Pattern

/-- Whether all classes of a pattern are within a kind. -/
def isWithin (kind : Char → Bool) : Pattern → Bool
  | char cls => cls.isWithin kind
  | seq first second => first.isWithin kind && second.isWithin kind
  | alt preferred fallback => preferred.isWithin kind && fallback.isWithin kind
  | run cls => cls.isWithin kind
  | capture _ body => body.isWithin kind
  | _ => true

/-- What a pattern takes is of the kind of its classes. -/
theorem kind_of_takes
    {kind : Char → Bool}
    {pattern : Pattern}
    {before text after : Text}
    (digits : ∀ c, isWordDigit c = true → kind c = true)
    (spaces : ∀ c, isWhiteSpace c = true → kind c = true)
    (within : pattern.isWithin kind = true)
    (takes : pattern.Takes before text after) :
    ∀ c ∈ text, kind c = true := by
  induction pattern generalizing before text after with
  | never => exact absurd takes id
  | empty =>
      obtain rfl : text = [] := takes
      simp
  | char cls =>
      obtain ⟨d, rfl, accepted⟩ := takes
      intro c member
      rw [List.mem_singleton.1 member]
      exact CharClass.kind_of_accepts digits spaces within accepted
  | seq first second ihFirst ihSecond =>
      rw [isWithin, Bool.and_eq_true] at within
      obtain ⟨head, tail, rfl, takesHead, takesTail⟩ := takes
      intro c member
      rcases List.mem_append.1 member with member | member
      · exact ihFirst within.1 takesHead c member
      · exact ihSecond within.2 takesTail c member
  | alt preferred fallback ihPreferred ihFallback =>
      rw [isWithin, Bool.and_eq_true] at within
      exact takes.elim (ihPreferred within.1) (ihFallback within.2)
  | run cls =>
      intro c member
      exact CharClass.kind_of_accepts digits spaces within (takes c member)
  | boundary =>
      obtain ⟨rfl, -⟩ := takes
      simp
  | capture slot body ih => exact ih within takes

theorem isBasic_of_takes
    {pattern : Pattern}
    {before text after : Text}
    (within : pattern.isWithin isBasic = true)
    (takes : pattern.Takes before text after) :
    ∀ c ∈ text, isBasic c = true :=
  kind_of_takes (fun c digit => by simp [isBasic, digit]) (fun c space => by simp [isBasic, space])
    within takes

theorem isUnmarked_of_takes
    {pattern : Pattern}
    {before text after : Text}
    (within : pattern.isWithin isUnmarked = true)
    (takes : pattern.Takes before text after) :
    ∀ c ∈ text, isUnmarked c = true := by
  refine kind_of_takes (fun c digit => ?_) (fun c space => ?_) within takes
  · have other : c ≠ 'i' := by
      rintro rfl
      revert digit
      decide
    simp [isUnmarked, isBasic, digit, other]
  · have other : c ≠ 'i' := by
      rintro rfl
      revert space
      decide
    simp [isUnmarked, isBasic, space, other]

end Pattern

namespace Stretch

variable {text : Text}

/-- Whether a stretch holds a long s or stands next to a capital that only turns into a letter of a
word in lower case. -/
def IsUnsettled (stretch : Stretch text) : Prop :=
  Char.ofNat 0x17F ∈ stretch.body ∨ (∃ c ∈ stretch.before.getLast?, isLateCapital c = true) ∨
    ∃ c ∈ stretch.after.head?, isLateCapital c = true

/-- A stretch that a pattern takes in either case is taken in lower case, unless it is
unsettled. -/
theorem takes_lowered
    {form : Pattern}
    {stretch : Stretch text}
    (written : form.isFolded = true)
    (within : form.isWithin isBasic = true)
    (takes : form.ignoreCase.Takes stretch.before.reverse stretch.body stretch.after)
    (settled : ¬stretch.IsUnsettled) :
    stretch.lowered.body = folded stretch.body ∧
      form.Takes stretch.lowered.before.reverse (folded stretch.body) stretch.lowered.after := by
  obtain ⟨short, early, late⟩ := by simpa only [IsUnsettled, not_or] using settled
  have takes := (Pattern.takes_ignoreCase written).1 takes
  have basic : ∀ c ∈ stretch.body, isBasic (CharClass.foldCase c) = true := fun c member =>
    Pattern.isBasic_of_takes within takes _ (List.mem_map_of_mem member)
  refine ⟨body_lowered basic short, Pattern.takes_congr ?_ ?_ takes⟩
  · rw [startsWithWord_folded]
    exact (stretch.before_lowered_cases.resolve_right fun odd => early odd.2).symm
  · rw [startsWithWord_folded]
    exact (stretch.after_lowered_cases.resolve_right fun odd => late odd.2).symm

end Stretch
end SearchPhrase
