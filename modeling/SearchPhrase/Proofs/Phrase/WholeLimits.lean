import SearchPhrase.Proofs.Pattern.Longest
import SearchPhrase.Proofs.Phrase.HeadWords
import SearchPhrase.Proofs.Phrase.PriceCores

/-!
# Limits leave the keywords as a whole

A limit and an amount between two others begin with a word that no other expression of these kinds
holds.  The first occurrence that meets one of them therefore begins where it begins, and being the
longest text that its pattern takes there it takes in all of it.
-/

namespace SearchPhrase
namespace Keywords

open Cursor Figure Pass Pattern Text Unicode

variable {phrase : Text} {stretch : Stretch phrase} {core : Core stretch}

theorem matchAt?_before_of_mem_findAll
    {pattern : Pattern}
    {text : Text}
    {found : Match}
    (member : found ∈ pattern.findAll text) :
    pattern.matchAt? ⟨found.before, found.text ++ found.after⟩ = some found := by
  obtain ⟨⟨before, after⟩, -, matched⟩ := matchAt?_of_mem_findAll member
  obtain ⟨same, whole, -⟩ := eq_of_matchAt? matched
  rwa [same, whole]

namespace Encounter

/-- What the occurrence goes on with, if it begins where the core begins. -/
theorem whole
    (encounter : Encounter core)
    (place : encounter.found.before.reverse = encounter.before) :
    encounter.found.text ++ encounter.found.after = core.body ++ encounter.after := by
  have same := (whole_of_mem_findAll encounter.member).1
  rw [place, List.append_assoc] at same
  exact List.append_cancel_left same

/-- An occurrence that begins where the core begins is what its pattern has there. -/
theorem matchAt?_eq
    (encounter : Encounter core)
    (place : encounter.found.before.reverse = encounter.before) :
    encounter.pass.pattern.matchAt? ⟨encounter.before.reverse, core.body ++ encounter.after⟩ =
      some encounter.found := by
  have matched := matchAt?_before_of_mem_findAll encounter.member
  rwa [encounter.whole place, ← List.reverse_reverse encounter.found.before, place] at matched

/-- An occurrence that begins where the core begins and is no shorter takes it in. -/
theorem covers_of_length_le
    (encounter : Encounter core)
    (place : encounter.found.before.reverse = encounter.before)
    (long : core.body.length ≤ encounter.found.text.length) :
    encounter.Covers := by
  have starts : byteLength encounter.found.before = byteLength encounter.before := by
    rw [← place, byteLength_reverse]
  obtain ⟨rest, split⟩ : core.body <+: encounter.found.text :=
    List.prefix_of_prefix_length_le ⟨_, rfl⟩ ⟨_, encounter.whole place⟩ long
  refine ⟨?_, ?_⟩
  · simp [Stretch.span, Stretch.between, Match.span, starts]
  · simp [Stretch.span, Stretch.between, Match.span, starts, ← split]

/-- What is found of the expressions that an opening word begins. -/
theorem isHeaded_found
    (encounter : Encounter core)
    (known : encounter.pass = blanking limitExpression.ignoreCase ∨
      encounter.pass = blanking betweenExpression.ignoreCase) :
    IsHeaded (folded encounter.found.text) := by
  have takes := takes_of_mem_findAll encounter.member
  rcases known with same | same <;> rw [same] at takes
  · obtain ⟨side, limit, tail, whole, isTail, -, -⟩ :=
      takes_limitExpression.1 ((@takes_ignoreCase limitExpression _ _ _ (by decide)).1 takes)
    rw [whole]
    exact isHeaded_limit limit isTail
  · obtain ⟨range, whole, -, -⟩ :=
      takes_betweenExpression.1 ((@takes_ignoreCase betweenExpression _ _ _ (by decide)).1 takes)
    rw [whole]
    exact isHeaded_between range

/-- What is found of these expressions begins where the core begins, if the core is one of them. -/
theorem place_eq
    (encounter : Encounter core)
    (known : encounter.pass = blanking limitExpression.ignoreCase ∨
      encounter.pass = blanking betweenExpression.ignoreCase)
    (headed : IsHeaded (folded core.body))
    (closes : Apart core.body.reverse core.after) :
    encounter.found.before.reverse = encounter.before := by
  obtain ⟨-, ends⟩ := (isClean_of_mem_figurePasses encounter.pass_mem).edges
    (takes_of_mem_findAll encounter.member)
  have ends : Apart encounter.found.text.reverse encounter.found.after := by
    refine @Apart.of_append _ encounter.found.before _ [] ?_
    rwa [List.append_nil]
  have meets := encounter.meets
  rw [← Stretch.span_ofMatch encounter.member] at meets
  have closes : Apart core.body.reverse encounter.after :=
    closes.imp_right encounter.thins.startsWithWord_after
  exact Stretch.before_eq_of_meets (encounter.isHeaded_found known) headed ends closes meets

end Encounter

section Length

variable {before body after : Text} {found : Match}
  (opens : Apart before body) (closes : Apart body.reverse after)

include opens closes

/-- Where a limit stands between words, an occurrence takes in all of it. -/
theorem length_le_of_limit
    {side : Side}
    {limit : LimitText side}
    (same : folded body = limit.text)
    (ends : startsWithWord limit.sum.text.reverse = true)
    (matched : limitExpression.ignoreCase.matchAt? ⟨before, body ++ after⟩ = some found) :
    body.length ≤ found.text.length := by
  have starts : startsWithWord body = true := by
    rw [← startsWithWord_folded, same]
    exact limit.announces.startsWithWord _
  have last : startsWithWord body.reverse = true := by
    rwa [← startsWithWord_folded, folded_reverse, same, LimitText.text, ← List.append_assoc,
      startsWithWord_reverse_append limit.sum.text_ne_nil]
  -- The unit of distance after the limit may be left out.
  have opening : (boundary ++ limitedMoney).ignoreCase.Takes before body ([] ++ after) := by
    apply (takes_ignoreCase (by decide)).2
    refine ⟨[], folded body, rfl, ⟨rfl, ?_⟩, takes_limitedMoney.2 ⟨side, limit, same⟩⟩
    rw [← folded_append, atBoundary_folded]
    exact atBoundary_of_apart opens starts after
  have closing :
      (opt (gap ++ distanceUnit) ++ boundary).ignoreCase.Takes
        (body.reverse ++ before) [] after := by
    apply (takes_ignoreCase (by decide)).2
    refine ⟨[], [], rfl, takes_opt.2 (.inr rfl), rfl, ?_⟩
    exact (atBoundary_folded _ _).trans (atBoundary_of_apart' closes last before)
  have form : limitExpression.ignoreCase =
      bounded (limitedMoney.ignoreCase ++ (opt (gap ++ distanceUnit)).ignoreCase) := rfl
  rw [form, matchAt?_bounded_append] at matched
  exact length_le_of_takes_append (by decide +kernel) opening closing matched

/-- Where an amount between two others stands between words, an occurrence takes in all of it. -/
theorem length_le_of_between
    {range : BetweenText}
    (same : folded body = range.text)
    (ends : startsWithWord range.second.text.reverse = true)
    (matched : betweenExpression.ignoreCase.matchAt? ⟨before, body ++ after⟩ = some found) :
    body.length ≤ found.text.length := by
  have takes : TakesAlone betweenExpression (folded body) := by
    rw [same]
    exact takesAlone_between ends
  exact length_le_of_takes (by decide +kernel) (takes.takes_ignoreCase (by decide) opens closes)
    matched

end Length

/-- No limit begins like an amount between two others. -/
theorem limit_append_ne_between_append
    {side : Side}
    (limit : LimitText side)
    (range : BetweenText)
    (rest rest' : Text) :
    limit.text ++ rest ≠ range.text ++ rest' := by
  have unlike : ∀ name ∈ side.firstWords,
      ¬name.toList <+: "between".toList ∧ ¬"between".toList <+: name.toList := by
    cases side <;> decide +kernel
  obtain ⟨name, known, others, begins⟩ := limit.announces.begins
  intro same
  have first : name.toList <+: limit.text ++ rest := by
    rw [LimitText.text, begins, List.append_assoc, List.append_assoc]
    exact List.prefix_append _ _
  have opening : "between".toList <+: range.opening := List.prefix_append _ _
  have first' : "between".toList <+: limit.text ++ rest := by
    rw [same]
    exact (opening.trans (List.prefix_append _ _)).trans (List.prefix_append _ _)
  exact (List.prefix_or_prefix_of_prefix first first').elim (unlike name known).1
    (unlike name known).2

section Removed

variable (kept : collapse (strip phrase) ≠ []) (opens : Apart core.before.reverse core.body)
  (closes : Apart core.body.reverse core.after)

include kept opens closes

/-- A limit leaves the keywords. -/
theorem isRemoved_of_limit
    {side : Side}
    {limit : LimitText side}
    (body : folded core.body = limit.text)
    (ends : startsWithWord limit.sum.text.reverse = true) :
    IsRemoved stretch := by
  obtain ⟨encounter, known⟩ := @nonempty_encounter _ _ _ [] _ (blanking limitExpression.ignoreCase)
    core rfl rfl (by decide) (by decide) (body ▸ takesAlone_limit ends) opens closes
  have known : encounter.pass = blanking limitExpression.ignoreCase := List.mem_singleton.1 known
  have headed : IsHeaded (folded core.body) := by
    rw [body, ← List.append_nil limit.text]
    exact isHeaded_limit limit (.inl rfl)
  have place := encounter.place_eq (.inl known) headed closes
  have matched := encounter.matchAt?_eq place
  rw [known] at matched
  obtain ⟨opens, closes⟩ := encounter.thins.apart opens closes
  refine encounter.isRemoved kept (encounter.covers_of_length_le place ?_) (by rw [known]; rfl)
  exact length_le_of_limit opens closes body ends matched

/-- An amount between two others leaves the keywords. -/
theorem isRemoved_of_between
    {range : BetweenText}
    (body : folded core.body = range.text)
    (ends : startsWithWord range.second.text.reverse = true) :
    IsRemoved stretch := by
  obtain ⟨encounter, known⟩ := @nonempty_encounter _ _ _ [blanking limitExpression.ignoreCase] _
    (blanking betweenExpression.ignoreCase) core rfl rfl (by decide) (by decide)
    (body ▸ takesAlone_between ends) opens closes
  have known : encounter.pass = blanking limitExpression.ignoreCase ∨
      encounter.pass = blanking betweenExpression.ignoreCase := by
    simpa using known
  have place := encounter.place_eq known (body ▸ isHeaded_between range) closes
  obtain ⟨opens, closes⟩ := encounter.thins.apart opens closes
  rcases known with isLimit | known
  · -- A limit begins with a word of its own.
    have takes := takes_of_mem_findAll encounter.member
    rw [isLimit] at takes
    obtain ⟨side, limit, tail, whole, -⟩ :=
      takes_limitExpression.1 ((@takes_ignoreCase limitExpression _ _ _ (by decide)).1 takes)
    have same := congrArg folded (encounter.whole place)
    rw [folded_append, folded_append, whole, body, List.append_assoc] at same
    exact absurd same (limit_append_ne_between_append limit range _ _)
  · have matched := encounter.matchAt?_eq place
    rw [known] at matched
    refine encounter.isRemoved kept (encounter.covers_of_length_le place ?_) (by rw [known]; rfl)
    exact length_le_of_between opens closes body ends matched

end Removed

end Keywords
end SearchPhrase
