import SearchPhrase.Proofs.Pattern.Occurrences
import SearchPhrase.Proofs.Phrase.Amounts
import SearchPhrase.Proofs.Phrase.Sources

/-!
# Distances in phrases without vehicles and units

A phrase that speaks of no vehicle and holds no unit of distance leaves one way for a figure to be
read as a distance: a number of thousands before "or below", which counts whatever its size.  The
floor for bare figures does not apply to it.
-/

namespace SearchPhrase

namespace Mileage

open Pattern Figure Text Unicode

/-- A unit of distance that is glued to a number, or to the letter that counts it in thousands.  A
unit that is a whole word is one of the words that tell what a phrase is about. -/
def gluedUnit : Pattern :=
  char (.either .digit (.only 'k')) ++ distanceUnit ++ boundary

/-- Whether a phrase holds a unit of distance that is glued to a number. -/
def hasGluedUnit (text : Text) : Bool :=
  gluedUnit.occursIn text

variable {text : Text}

/-- What may stand right before a unit: no word, or what a unit is glued to. -/
def MayPrecedeUnit (c : Char) : Prop :=
  isWord c = false ∨ (CharClass.either .digit (.only 'k')).accepts c = true

theorem exists_last
    {middle : Text}
    (nonempty : middle ≠ [])
    (front before : Text) :
    ∃ c ∈ middle, ∃ others, (front ++ middle).reverse ++ before = c :: others := by
  obtain ⟨rest, c, rfl⟩ := (List.eq_nil_or_concat middle).resolve_left nonempty
  exact ⟨c, by simp, (front ++ rest).reverse ++ before, by simp⟩

theorem mayPrecedeUnit_of_isBlank
    {gap : Text}
    {c : Char}
    (blank : isBlank gap = true)
    (member : c ∈ gap) :
    MayPrecedeUnit c :=
  .inl (isWord_of_isWhiteSpace (isBlank_iff.1 blank c member))

theorem mayPrecedeUnit_of_isNumber
    {number : Text}
    {c : Char}
    (isNumber : IsNumber number)
    (member : c ∈ number) :
    MayPrecedeUnit c := by
  rcases isNumber.mem member with digit | rfl | rfl
  · exact .inr (Bool.or_eq_true_iff.2 (.inl digit))
  · exact .inl (by decide)
  · exact .inl (by decide)

/-- A limit with a unit ends in a unit, after a character that may precede it. -/
theorem UnitForm.exists_front
    {side : Side}
    {found : Match}
    (form : UnitForm side found) :
    ∃ front, found.text = front ++ form.unit.toList ∧
      ∃ c others, front.reverse ++ found.before = c :: others ∧ MayPrecedeUnit c := by
  by_cases nothing'' : form.gap'' = []
  · rcases form.isLetter with none | thousands
    · refine ⟨form.words ++ form.gap ++ form.digits, ?_, ?_⟩
      · simp [form.whole, form.close none, none, nothing'']
      · obtain ⟨c, member, others, same⟩ :=
          exists_last form.isNumber.ne_nil (form.words ++ form.gap) found.before
        exact ⟨c, others, same, mayPrecedeUnit_of_isNumber form.isNumber member⟩
    · refine ⟨form.words ++ form.gap ++ form.digits ++ form.gap' ++ ['k'], ?_, ?_⟩
      · simp [form.whole, thousands, nothing'']
      · obtain ⟨c, member, others, same⟩ := exists_last (List.cons_ne_nil 'k' [])
          (form.words ++ form.gap ++ form.digits ++ form.gap') found.before
        obtain rfl := List.mem_singleton.1 member
        exact ⟨_, others, same, .inr (by decide)⟩
  · refine ⟨form.words ++ form.gap ++ form.digits ++ form.gap' ++ form.letter ++ form.gap'', ?_, ?_⟩
    · simp [form.whole]
    · obtain ⟨c, member, others, same⟩ := exists_last nothing''
        (form.words ++ form.gap ++ form.digits ++ form.gap' ++ form.letter) found.before
      exact ⟨c, others, same, mayPrecedeUnit_of_isBlank form.blank'' member⟩

/-- Where there is a limit with a unit, the phrase is about mileage or the unit is glued to its
number. -/
theorem hasContext_or_hasGluedUnit
    {side : Side}
    {found : Match}
    (member : found ∈ (limitWithUnit side.limit).findAll text) :
    hasContext text = true ∨ hasGluedUnit text = true := by
  obtain ⟨form⟩ := nonempty_unitForm member
  obtain ⟨front, split, c, others, last, mayPrecede⟩ := form.exists_front
  have isUnit : distanceUnit.Takes (c :: others) form.unit.toList found.after :=
    takes_oneOf.2 ⟨form.unit, form.known, rfl⟩
  have closes := form.closes
  rw [split, List.reverse_append, List.append_assoc, last] at closes
  have place : (c :: others).reverse ++ (form.unit.toList ++ found.after) = text := by
    rw [← (whole_of_mem_findAll member).1, split, ← last]
    simp
  rcases mayPrecede with notWord | glued
  · have context : contextWord.Takes (c :: others) form.unit.toList found.after := by
      refine takes_bounded.2 ⟨?_, .inr isUnit, closes⟩
      have words : areWords distanceWords = true := by decide
      have starts := startsWithWord_name_append words form.known found.after
      have fresh : Cursor.startsWithWord (c :: others) = false := notWord
      simp [Cursor.atBoundary, starts, fresh]
    exact .inl ((occursIn_iff (by decide)).2 ⟨_, _, _, place, context⟩)
  · have joined : gluedUnit.Takes others (c :: form.unit.toList) found.after := by
      refine ⟨c :: form.unit.toList, [], by simp, ⟨[c], _, rfl, ⟨c, rfl, glued⟩, isUnit⟩, rfl, ?_⟩
      simpa using closes
    have place : others.reverse ++ (c :: form.unit.toList ++ found.after) = text := by
      simpa using place
    exact .inr ((occursIn_iff (by decide)).2 ⟨_, _, _, place, joined⟩)

theorem withUnit?_eq_none
    (apart : hasContext text = false)
    (unitless : hasGluedUnit text = false)
    (side : Side) :
    withUnit? side.limit text = none := by
  cases first : (limitWithUnit side.limit).find? text with
  | none => simp [withUnit?, first]
  | some found =>
      rcases hasContext_or_hasGluedUnit (List.mem_of_head? first) with held | held
      · rw [apart] at held
        cases held
      · rw [unitless] at held
        cases held

/-- Without a vehicle and a unit, only a figure before "or below" is read. -/
theorem read_eq_readOrBelow
    (apart : hasContext text = false)
    (unitless : hasGluedUnit text = false) :
    read text = readOrBelow text .nothing := by
  have upper : withUnit? atMost text = none := withUnit?_eq_none apart unitless .upper
  have lower : withUnit? atLeast text = none := withUnit?_eq_none apart unitless .lower
  simp [read, readBare, apart, readWithUnit, upper, lower, claimUpper?, claimLower?]

end Mileage

namespace Interpretation

open Unicode

/-- A phrase without a vehicle and a unit sets no bound on a distance but the first figure before
"or below" that is no amount of money. -/
theorem odometer_of_unitless
    (phrase : String)
    (apart : Mileage.hasContext (lowercase phrase.toList) = false)
    (unitless : Mileage.hasGluedUnit (lowercase phrase.toList) = false) :
    (ofPhrase phrase).filters.odometer.lower = none ∧
      ∀ value, (ofPhrase phrase).filters.odometer.upper = some value →
        ∃ found ∈ Mileage.orBelow.findAll (lowercase phrase.toList),
          found.followsCurrency = false ∧ found.thousands? .left = some value := by
  have bounds : (ofPhrase phrase).filters.odometer =
      (Mileage.readOrBelow (lowercase phrase.toList) .nothing).bounds :=
    congrArg Reading.bounds (Mileage.read_eq_readOrBelow apart unitless)
  rw [bounds, Mileage.bounds_readOrBelow]
  refine ⟨rfl, ?_⟩
  intro value set
  obtain ⟨⟨amount, span⟩, first, rfl⟩ := Option.map_eq_some_iff.1 set
  obtain ⟨found, member, read⟩ := List.exists_of_findSome?_eq_some first
  obtain ⟨thousands, value, read⟩ := Option.bind_eq_some_iff.1 read
  split at read
  · simp at read
  · next plain =>
      cases read
      exact ⟨found, member, by simpa using plain, value⟩

/-- The figure may be small and the phrase need not be about vehicles at all. -/
theorem odometer_of_unitless_laptop :
    Mileage.hasContext (lowercase "Laptop, 10k or below".toList) = false ∧
      Mileage.hasGluedUnit (lowercase "Laptop, 10k or below".toList) = false ∧
        (ofPhrase "Laptop, 10k or below").filters.odometer.lower = none ∧
          ∀ value, (ofPhrase "Laptop, 10k or below").filters.odometer.upper = some value →
            ∃ found ∈ Mileage.orBelow.findAll (lowercase "Laptop, 10k or below".toList),
              found.followsCurrency = false ∧ found.thousands? .left = some value := by
  have apart : Mileage.hasContext (lowercase "Laptop, 10k or below".toList) = false := by
    decide +kernel
  have unitless : Mileage.hasGluedUnit (lowercase "Laptop, 10k or below".toList) = false := by
    decide +kernel
  exact ⟨apart, unitless, odometer_of_unitless "Laptop, 10k or below" apart unitless⟩

/-- The floor for bare figures is no floor for every distance that is read without a vehicle and a
unit. -/
theorem not_bareFloor_le_odometer :
    ¬∀ phrase : String, Mileage.hasContext (lowercase phrase.toList) = false →
      Mileage.hasGluedUnit (lowercase phrase.toList) = false →
        ∀ value, (ofPhrase phrase).filters.odometer.lower = some value ∨
          (ofPhrase phrase).filters.odometer.upper = some value → Mileage.bareFloor ≤ value := by
  intro floored
  have upper : (ofPhrase "Laptop, 10k or below").filters.odometer.upper = some 10000 := by
    decide +kernel
  have above := floored "Laptop, 10k or below" (by decide +kernel) (by decide +kernel) 10000
    (.inr upper)
  exact absurd above (by decide)

end Interpretation
end SearchPhrase
