import SearchPhrase.Proofs.Phrase.Limits

/-!
# Where bounds come from

Each bound of a reading is a value that was found in a stretch claimed for it, and each claimed
stretch supplies a bound.  Years and distances claim occurrences of their own patterns.  For prices
the stretch is an occurrence of a limit, of an amount between two others, or of a bare range, and it
meets nothing that was claimed before.
-/

namespace SearchPhrase

open Figure

namespace Reading

variable {α : Type} [LT α] [DecidableLT α]

/-- A reading that comes about by claiming values together with the stretches they stand in. -/
inductive IsTraced (Source : Side → α → Span → Prop) : Reading α → Prop where
  /-- Nothing has been claimed. -/
  | nothing : IsTraced Source nothing
  /-- A value has been claimed for the lower bound. -/
  | claimLower {reading : Reading α} {value : α} {span : Span} (traced : IsTraced Source reading)
      (source : Source .lower value span) : IsTraced Source (reading.claimLower value span)
  /-- A value has been claimed for the upper bound. -/
  | claimUpper {reading : Reading α} {value : α} {span : Span} (traced : IsTraced Source reading)
      (source : Source .upper value span) : IsTraced Source (reading.claimUpper value span)
  /-- Two values have been claimed for both bounds. -/
  | claimRange {reading : Reading α} {low high : α} {span : Span} (traced : IsTraced Source reading)
      (lower : Source .lower low span) (upper : Source .upper high span) :
      IsTraced Source (reading.claimRange low high span)

variable {Source : Side → α → Span → Prop} {reading : Reading α}

theorem IsTraced.isBuilt (traced : reading.IsTraced Source) :
    reading.IsBuilt fun span => ∃ side value, Source side value span := by
  induction traced with
  | nothing => exact .nothing
  | claimLower _ source ih => exact ih.claimLower ⟨_, _, source⟩ _
  | claimUpper _ source ih => exact ih.claimUpper ⟨_, _, source⟩ _
  | claimRange _ lower _ ih => exact ih.claimRange ⟨_, _, lower⟩ _ _

/-- A bound that a claim leaves as it was keeps its stretch, and the other comes from the claim. -/
theorem claimLower_cases
    {side : Side}
    {value low : α}
    {span : Span}
    (set : side.bound? (reading.claimLower low span).bounds = some value) :
    (side = .lower ∧ value = low ∧ span ∈ (reading.claimLower low span).spans) ∨
      (side.bound? reading.bounds = some value ∧
        reading.spans ⊆ (reading.claimLower low span).spans) := by
  unfold claimLower at set ⊢
  split at set
  · next bounds lowerSet =>
      obtain ⟨-, -, rfl⟩ := Bounds.setLower?_eq_some_iff.1 lowerSet
      cases side with
      | lower => exact .inl ⟨rfl, (Option.some.inj set).symm, by simp⟩
      | upper => exact .inr ⟨set, by simp⟩
  · exact .inr ⟨set, by simp⟩

theorem claimUpper_cases
    {side : Side}
    {value high : α}
    {span : Span}
    (set : side.bound? (reading.claimUpper high span).bounds = some value) :
    (side = .upper ∧ value = high ∧ span ∈ (reading.claimUpper high span).spans) ∨
      (side.bound? reading.bounds = some value ∧
        reading.spans ⊆ (reading.claimUpper high span).spans) := by
  unfold claimUpper at set ⊢
  split at set
  · next bounds upperSet =>
      obtain ⟨-, -, rfl⟩ := Bounds.setUpper?_eq_some_iff.1 upperSet
      cases side with
      | upper => exact .inl ⟨rfl, (Option.some.inj set).symm, by simp⟩
      | lower => exact .inr ⟨set, by simp⟩
  · exact .inr ⟨set, by simp⟩

theorem claimRange_cases
    {side : Side}
    {value low high : α}
    {span : Span}
    (set : side.bound? (reading.claimRange low high span).bounds = some value) :
    (value = side.choose low high ∧ span ∈ (reading.claimRange low high span).spans) ∨
      (side.bound? reading.bounds = some value ∧
        reading.spans ⊆ (reading.claimRange low high span).spans) := by
  unfold claimRange at set ⊢
  split at set
  · next bounds lowerSet =>
      obtain ⟨-, -, rfl⟩ := Bounds.setLower?_eq_some_iff.1 lowerSet
      cases upperSet : Bounds.setUpper? { reading.bounds with lower := some low } high with
      | none =>
          rw [upperSet, Option.getD_none] at set
          cases side with
          | lower => exact .inl ⟨(Option.some.inj set).symm, by simp⟩
          | upper => exact .inr ⟨set, by simp⟩
      | some result =>
          obtain ⟨-, -, rfl⟩ := Bounds.setUpper?_eq_some_iff.1 upperSet
          rw [upperSet, Option.getD_some] at set
          cases side <;> exact .inl ⟨(Option.some.inj set).symm, by simp⟩
  · rcases claimUpper_cases set with ⟨rfl, rfl, member⟩ | ⟨set, subset⟩
    · exact .inl ⟨rfl, member⟩
    · exact .inr ⟨set, subset⟩

/-- A bound has a source among the stretches that have been claimed. -/
theorem IsTraced.exists_source
    {side : Side}
    {value : α}
    (traced : reading.IsTraced Source)
    (set : side.bound? reading.bounds = some value) :
    ∃ span ∈ reading.spans, Source side value span := by
  induction traced with
  | nothing =>
      have none : side.bound? (Reading.nothing : Reading α).bounds = none := by cases side <;> rfl
      rw [none] at set
      cases set
  | claimLower _ source ih =>
      rcases claimLower_cases set with ⟨rfl, rfl, member⟩ | ⟨known, subset⟩
      · exact ⟨_, member, source⟩
      · obtain ⟨span, member, source⟩ := ih known
        exact ⟨span, subset member, source⟩
  | claimUpper _ source ih =>
      rcases claimUpper_cases set with ⟨rfl, rfl, member⟩ | ⟨known, subset⟩
      · exact ⟨_, member, source⟩
      · obtain ⟨span, member, source⟩ := ih known
        exact ⟨span, subset member, source⟩
  | claimRange _ lower upper ih =>
      rcases claimRange_cases set with ⟨rfl, member⟩ | ⟨known, subset⟩
      · refine ⟨_, member, ?_⟩
        cases side with
        | lower => exact lower
        | upper => exact upper
      · obtain ⟨span, member, source⟩ := ih known
        exact ⟨span, subset member, source⟩

/-- A claim for one end keeps the other one, and the end itself where it was set before. -/
theorem bound?_of_setLower?
    {side : Side}
    {value known : α}
    {bounds result : Bounds α}
    (set : bounds.setLower? value = some result)
    (before : side.bound? bounds = some known) :
    side.bound? result = some known := by
  obtain ⟨unset, -, rfl⟩ := Bounds.setLower?_eq_some_iff.1 set
  cases side with
  | upper => exact before
  | lower => exact absurd (unset.symm.trans before) (by simp)

theorem bound?_of_setUpper?
    {side : Side}
    {value known : α}
    {bounds result : Bounds α}
    (set : bounds.setUpper? value = some result)
    (before : side.bound? bounds = some known) :
    side.bound? result = some known := by
  obtain ⟨unset, -, rfl⟩ := Bounds.setUpper?_eq_some_iff.1 set
  cases side with
  | lower => exact before
  | upper => exact absurd (unset.symm.trans before) (by simp)

/-- A reading reports a bound from each of its stretches. -/
def SuppliesAll (Source : Side → α → Span → Prop) (reading : Reading α) : Prop :=
  ∀ span ∈ reading.spans, ∃ (side : Side) (value : α),
    side.bound? reading.bounds = some value ∧ Source side value span

omit [LT α] [DecidableLT α] in
/-- A stretch that supplies a bound may be added where the other bounds stay. -/
theorem SuppliesAll.append
    {bounds : Bounds α}
    {side : Side}
    {value : α}
    {span : Span}
    (supplies : reading.SuppliesAll Source)
    (kept : ∀ (side : Side) (value : α), side.bound? reading.bounds = some value →
      side.bound? bounds = some value)
    (set : side.bound? bounds = some value)
    (source : Source side value span) :
    SuppliesAll Source ⟨bounds, reading.spans ++ [span]⟩ := by
  intro other member
  rcases List.mem_append.1 member with member | member
  · obtain ⟨side, value, known, source⟩ := supplies other member
    exact ⟨side, value, kept side value known, source⟩
  · rw [List.mem_singleton.1 member]
    exact ⟨side, value, set, source⟩

theorem SuppliesAll.claimUpper
    {value : α}
    {span : Span}
    (supplies : reading.SuppliesAll Source)
    (source : Source .upper value span) :
    (reading.claimUpper value span).SuppliesAll Source := by
  unfold Reading.claimUpper
  split
  · next bounds set =>
      refine supplies.append (fun side value => bound?_of_setUpper? set) ?_ source
      obtain ⟨-, -, rfl⟩ := Bounds.setUpper?_eq_some_iff.1 set
      rfl
  · exact supplies

/-- Each stretch that has been claimed supplies a bound that is reported. -/
theorem IsTraced.suppliesAll (traced : reading.IsTraced Source) : reading.SuppliesAll Source := by
  induction traced with
  | nothing => exact fun span member => absurd member List.not_mem_nil
  | claimLower _ source ih =>
      unfold Reading.claimLower
      split
      · next bounds set =>
          refine ih.append (fun side value => bound?_of_setLower? set) ?_ source
          obtain ⟨-, -, rfl⟩ := Bounds.setLower?_eq_some_iff.1 set
          rfl
      · exact ih
  | claimUpper _ source ih => exact ih.claimUpper source
  | @claimRange reading low high span _ lower upper ih =>
      unfold Reading.claimRange
      split
      · next bounds set =>
          have first : Side.lower.bound? bounds = some low := by
            obtain ⟨-, -, rfl⟩ := Bounds.setLower?_eq_some_iff.1 set
            rfl
          have kept : ∀ (side : Side) (value : α), side.bound? bounds = some value →
              side.bound? ((bounds.setUpper? high).getD bounds) = some value := by
            intro side value known
            cases upperSet : bounds.setUpper? high with
            | none => exact known
            | some result => exact bound?_of_setUpper? upperSet known
          refine ih.append (fun side value known => ?_) (kept .lower low first) lower
          exact kept side value (bound?_of_setLower? set known)
      · exact ih.claimUpper upper

variable {value : α} {span : Span}

theorem lower_claimUpper : (reading.claimUpper value span).bounds.lower = reading.bounds.lower := by
  unfold claimUpper
  split
  · next bounds set =>
      obtain ⟨-, -, rfl⟩ := Bounds.setUpper?_eq_some_iff.1 set
      rfl
  · rfl

theorem upper_claimLower : (reading.claimLower value span).bounds.upper = reading.bounds.upper := by
  unfold claimLower
  split
  · next bounds set =>
      obtain ⟨-, -, rfl⟩ := Bounds.setLower?_eq_some_iff.1 set
      rfl
  · rfl

theorem subset_claimUpper : reading.spans ⊆ (reading.claimUpper value span).spans := by
  unfold claimUpper
  split <;> simp

theorem subset_claimLower : reading.spans ⊆ (reading.claimLower value span).spans := by
  unfold claimLower
  split <;> simp

/-- A stretch is claimed for an upper bound that is open and does not reverse the range. -/
theorem mem_claimUpper
    (unset : reading.bounds.upper = none)
    (ordered : ∀ low ∈ reading.bounds.lower, ¬value < low) :
    span ∈ (reading.claimUpper value span).spans := by
  rw [claimUpper, Bounds.setUpper?_eq_some_iff.2 ⟨unset, ordered, rfl⟩]
  exact List.mem_append_right _ List.mem_cons_self

/-- A stretch is claimed for a lower bound that is open and does not reverse the range. -/
theorem mem_claimLower
    (unset : reading.bounds.lower = none)
    (ordered : ∀ high ∈ reading.bounds.upper, ¬high < value) :
    span ∈ (reading.claimLower value span).spans := by
  rw [claimLower, Bounds.setLower?_eq_some_iff.2 ⟨unset, ordered, rfl⟩]
  exact List.mem_append_right _ List.mem_cons_self

end Reading

/-! ## Years -/

namespace Years

open Pattern Reading

/-- The words after which a year is one end of a range. -/
def leads : Side → List String
  | .lower => ["after", "since", "from"]
  | .upper => ["before", "until"]

/-- A year after a word that makes it one end of a range. -/
def ledYear (side : Side) : Pattern :=
  bounded (oneOf (leads side) ++ blank ++ year .left)

/-- How a year is found in a stretch of a text. -/
inductive Source (text : Text) (side : Side) : UInt32 → Span → Prop where
  /-- It comes after a word that makes it one end of a range. -/
  | led {found : Match} {value : UInt32} (member : found ∈ (ledYear side).findAll text)
      (year : recordedYear? found .left = some value) : Source text side value found.span
  /-- It is one of two in ascending order. -/
  | pair {found : Match} {first second : UInt32} (member : found ∈ yearPair.findAll text)
      (year : recordedYear? found .left = some first)
      (year' : recordedYear? found .right = some second) (ascending : first ≤ second) :
      Source text side (side.choose first second) found.span
  /-- It stands alone. -/
  | lone {found : Match} {value : UInt32} (member : found ∈ loneYear.findAll text)
      (year : recordedYear? found .left = some value) (alone : standsAlone found = true) :
      Source text side value found.span

variable {text : Text}

theorem source_of_ascendingPair?
    {first second : UInt32}
    {span : Span}
    (read : (yearPair.findAll text).findSome? ascendingPair? = some (first, second, span))
    (side : Side) :
    Source text side (side.choose first second) span := by
  obtain ⟨found, member, read⟩ := List.exists_of_findSome?_eq_some read
  obtain ⟨low, year, read⟩ := Option.bind_eq_some_iff.1 read
  obtain ⟨high, year', read⟩ := Option.bind_eq_some_iff.1 read
  split at read
  · next ascending =>
      cases read
      exact .pair member year year' ascending
  · simp at read

theorem source_of_loneYear?
    {value : UInt32}
    {span : Span}
    (read : (loneYear.findAll text).findSome? loneYear? = some (value, span))
    (side : Side) :
    Source text side value span := by
  obtain ⟨found, member, read⟩ := List.exists_of_findSome?_eq_some read
  obtain ⟨low, year, read⟩ := Option.bind_eq_some_iff.1 read
  split at read
  · next alone =>
      cases read
      exact .lone member year alone
  · simp at read

/-- Years are traced to leading words, pairs, and years that stand alone. -/
theorem isTraced_read (text : Text) : (read text).IsTraced (Source text) := by
  have after : (readAfter text .nothing).IsTraced (Source text) := by
    unfold readAfter
    split
    · exact .nothing
    · next found first =>
        split
        · exact .nothing
        · next year =>
            have member : found ∈ (ledYear .lower).findAll text := mem_findAll_of_find? first
            exact IsTraced.nothing.claimLower (.led member year)
  have before : (readBefore text (readAfter text .nothing)).IsTraced (Source text) := by
    unfold readBefore
    split
    · exact after
    · next found first =>
        split
        · exact after
        · next year =>
            have member : found ∈ (ledYear .upper).findAll text := mem_findAll_of_find? first
            exact after.claimUpper (.led member year)
  have pair : (readPair text (readBefore text (readAfter text .nothing))).IsTraced
      (Source text) := by
    unfold readPair
    split
    · exact before
    · next ascending =>
        exact before.claimRange (source_of_ascendingPair? ascending .lower)
          (source_of_ascendingPair? ascending .upper)
  unfold read readLone
  split
  · split
    · exact pair
    · next lone =>
        exact pair.claimRange (source_of_loneYear? lone .lower) (source_of_loneYear? lone .upper)
  · exact pair

/-- Years claim occurrences of their patterns. -/
theorem isBuilt_read (text : Text) : (read text).IsBuilt (OccurAt patterns text) := by
  refine (isTraced_read text).isBuilt.mono fun span ⟨side, value, source⟩ => ?_
  cases source with
  | led member _ =>
      have known : ledYear side ∈ patterns := by
        cases side with
        | upper => exact List.mem_cons_of_mem _ List.mem_cons_self
        | lower => exact List.mem_cons_self
      exact occurAt_of_mem known member
  | pair member _ _ _ => exact occurAt_of_mem (by simp [patterns]) member
  | lone member _ _ => exact occurAt_of_mem (by simp [patterns]) member

end Years

/-! ## Distances -/

namespace Mileage

open Pattern Reading

/-- How a distance is found in a stretch of a text. -/
inductive Source (text : Text) (side : Side) : UInt64 → Span → Prop where
  /-- It is the number of thousands before "or below". -/
  | orBelow {found : Match} {value : UInt64} (upper : side = .upper)
      (member : found ∈ orBelow.findAll text) (amount : found.thousands? .left = some value)
      (free : found.followsCurrency = false) : Source text side value found.span
  /-- It is the amount of a limit with a unit. -/
  | withUnit {found : Match} {value : UInt64}
      (member : found ∈ (limitWithUnit side.limit).findAll text)
      (amount : found.amount? .left .leftScale = some value) : Source text side value found.span
  /-- It is the amount of a limit in thousands. -/
  | inThousands {found : Match} {value : UInt64}
      (member : found ∈ (limitInThousands side.limit).findAll text)
      (amount : found.thousands? .left = some value) (floor : ¬value < bareFloor) :
      Source text side value found.span

variable {text : Text}

theorem source_of_orBelow?
    {value : UInt64}
    {span : Span}
    (read : (orBelow.findAll text).findSome? orBelow? = some (value, span)) :
    Source text .upper value span := by
  obtain ⟨found, member, read⟩ := List.exists_of_findSome?_eq_some read
  obtain ⟨thousands, amount, read⟩ := Option.bind_eq_some_iff.1 read
  split at read
  · simp at read
  · next free =>
      cases read
      exact .orBelow rfl member amount (by simpa using free)

theorem source_of_withUnit?
    {side : Side}
    {value : UInt64}
    {span : Span}
    (read : withUnit? side.limit text = some (value, span)) :
    Source text side value span := by
  obtain ⟨found, first, read⟩ := Option.bind_eq_some_iff.1 read
  obtain ⟨number, amount, read⟩ := Option.bind_eq_some_iff.1 read
  cases read
  exact .withUnit (mem_findAll_of_find? first) amount

theorem source_of_inThousands?
    {side : Side}
    {value : UInt64}
    {span : Span}
    (read : inThousands? side.limit text = some (value, span)) :
    Source text side value span := by
  obtain ⟨found, first, read⟩ := Option.bind_eq_some_iff.1 read
  obtain ⟨number, amount, read⟩ := Option.bind_eq_some_iff.1 read
  split at read
  · simp at read
  · next floor =>
      cases read
      exact .inThousands (mem_findAll_of_find? first) amount floor

section Claims

variable {From : Side → UInt64 → Span → Prop} {reading : Reading UInt64}
  {bound : Option (UInt64 × Span)}

theorem isTraced_claimUpper?
    (traced : reading.IsTraced From)
    (source : ∀ value span, bound = some (value, span) → From .upper value span) :
    (claimUpper? bound reading).IsTraced From := by
  cases bound with
  | none => exact traced
  | some found => exact traced.claimUpper (source _ _ rfl)

theorem isTraced_claimLower?
    (traced : reading.IsTraced From)
    (source : ∀ value span, bound = some (value, span) → From .lower value span) :
    (claimLower? bound reading).IsTraced From := by
  cases bound with
  | none => exact traced
  | some found => exact traced.claimLower (source _ _ rfl)

end Claims

/-- Distances are traced to figures before "or below", limits with a unit, and limits in
thousands. -/
theorem isTraced_read (text : Text) : (read text).IsTraced (Source text) := by
  have orBelow : (readOrBelow text .nothing).IsTraced (Source text) :=
    isTraced_claimUpper? .nothing fun _ _ => source_of_orBelow?
  have withUnit : (readWithUnit text (readOrBelow text .nothing)).IsTraced (Source text) := by
    apply isTraced_claimLower?
    · exact isTraced_claimUpper? orBelow fun _ _ => @source_of_withUnit? text .upper _ _
    · exact fun _ _ => @source_of_withUnit? text .lower _ _
  unfold read readBare
  split
  · apply isTraced_claimLower?
    · exact isTraced_claimUpper? withUnit fun _ _ => @source_of_inThousands? text .upper _ _
    · exact fun _ _ => @source_of_inThousands? text .lower _ _
  · exact withUnit

/-- Distances claim occurrences of their patterns. -/
theorem isBuilt_read (text : Text) : (read text).IsBuilt (OccurAt patterns text) := by
  refine (isTraced_read text).isBuilt.mono fun span ⟨side, value, source⟩ => ?_
  cases source with
  | orBelow _ member _ _ => exact occurAt_of_mem (by simp [patterns]) member
  | withUnit member _ => exact occurAt_of_mem (by cases side <;> simp [patterns, Side.limit]) member
  | inThousands member _ _ =>
      exact occurAt_of_mem (by cases side <;> simp [patterns, Side.limit]) member

theorem bounds_readOrBelow (text : Text) :
    (readOrBelow text .nothing).bounds =
      { upper := ((orBelow.findAll text).findSome? orBelow?).map Prod.fst } := by
  unfold readOrBelow claimUpper?
  split
  · next none => rw [none]; rfl
  · next value span first => rw [first]; rfl

section Claims

variable {reading : Reading UInt64} {bound : Option (UInt64 × Span)}

theorem lower_claimUpper? : (claimUpper? bound reading).bounds.lower = reading.bounds.lower := by
  cases bound with
  | none => rfl
  | some found => exact lower_claimUpper

theorem upper_claimLower? : (claimLower? bound reading).bounds.upper = reading.bounds.upper := by
  cases bound with
  | none => rfl
  | some found => exact upper_claimLower

theorem subset_claimUpper? : reading.spans ⊆ (claimUpper? bound reading).spans := by
  cases bound with
  | none => exact List.Subset.refl _
  | some found => exact subset_claimUpper

theorem subset_claimLower? : reading.spans ⊆ (claimLower? bound reading).spans := by
  cases bound with
  | none => exact List.Subset.refl _
  | some found => exact subset_claimLower

end Claims

theorem subset_readBare (text : Text) (reading : Reading UInt64) :
    reading.spans ⊆ (readBare text reading).spans := by
  unfold readBare
  split
  · exact List.Subset.trans subset_claimUpper? subset_claimLower?
  · exact List.Subset.refl _

/-- Limits without a unit are not read beside a greatest distance. -/
theorem readBare_of_upper
    {reading : Reading UInt64}
    {high : UInt64}
    (set : reading.bounds.upper = some high)
    (text : Text) :
    readBare text reading = reading := by
  simp [readBare, isNothing, Bounds.isUnbounded, set]

/-- Why a distance is not claimed for one side. -/
inductive Refuses (text : Text) (value : UInt64) : Side → Prop where
  /-- A figure before "or below" has set the greatest distance. -/
  | taken {high : UInt64} (set : (readOrBelow text .nothing).bounds.upper = some high) :
      Refuses text value .upper
  /-- The greatest distance is smaller. -/
  | reversed {high : UInt64} (set : (read text).bounds.upper = some high)
      (smaller : high < value) : Refuses text value .lower

/-- The first limit with a unit is claimed, unless its side is taken or the range would be
reversed. -/
theorem mem_or_refuses
    {text : Text}
    {side : Side}
    {value : UInt64}
    {span : Span}
    (known : withUnit? side.limit text = some (value, span)) :
    span ∈ (read text).spans ∨ Refuses text value side := by
  have unset : (readOrBelow text .nothing).bounds.lower = none := by rw [bounds_readOrBelow]
  cases side with
  | upper =>
      have known : withUnit? atMost text = some (value, span) := known
      cases set : (readOrBelow text .nothing).bounds.upper with
      | some high => exact .inr (.taken set)
      | none =>
          have claimed : span ∈ (claimUpper? (withUnit? atMost text)
              (readOrBelow text .nothing)).spans := by
            rw [known]
            exact mem_claimUpper set (by simp [unset])
          exact .inl (subset_readBare _ _ (subset_claimLower? claimed))
  | lower =>
      have known : withUnit? atLeast text = some (value, span) := known
      by_cases ordered : ∀ high ∈ (claimUpper? (withUnit? atMost text)
          (readOrBelow text .nothing)).bounds.upper, ¬high < value
      · left
        apply subset_readBare
        rw [readWithUnit, known]
        exact mem_claimLower (lower_claimUpper?.trans unset) ordered
      · obtain ⟨high, set, smaller⟩ : ∃ high ∈ (claimUpper? (withUnit? atMost text)
            (readOrBelow text .nothing)).bounds.upper, high < value := by
          simpa using ordered
        have upper : (readWithUnit text (readOrBelow text .nothing)).bounds.upper = some high :=
          upper_claimLower?.trans set
        refine .inr (.reversed ?_ smaller)
        rw [read, readBare_of_upper upper, upper]

end Mileage

/-! ## Prices -/

namespace Budget

open Pattern Reading

/-- How a price is found in a stretch of a text of which some is claimed already. -/
inductive Source (claimed : List Span) (text : Text) (side : Side) : UInt64 → Span → Prop where
  /-- It is the amount of a limit. -/
  | limit {found : Match} {value : UInt64} (member : found ∈ (limited side.limit).findAll text)
      (free : found.span.meetsAny claimed = false)
      (amount : found.amount? .left .leftScale = some value) :
      Source claimed text side value found.span
  /-- It is one of the two ends of an amount between them. -/
  | between {found : Match} {first second : UInt64} (member : found ∈ between.findAll text)
      (free : found.span.meetsAny claimed = false)
      (amounts : bothAmounts? found = some (first, second)) :
      Source claimed text side (side.choose first second) found.span
  /-- It is one of the two ends of a bare range. -/
  | range {found : Match} {first second : UInt64} (member : found ∈ bareRange.findAll text)
      (free : found.span.meetsAny claimed = false)
      (amounts : bothAmounts? found = some (first, second))
      (floor : bareRangeFloor < first ∧ bareRangeFloor < second)
      (begins : found.beginsToken = true)
      (unitless : found.precedesDistance = false) :
      Source claimed text side (side.choose (min first second) (max first second)) found.span

variable {claimed : List Span} {text : Text}

theorem bothAmounts?_eq_some
    {found : Match}
    {first second : UInt64}
    (amounts : bothAmounts? found = some (first, second)) :
    found.amount? .left .leftScale = some first ∧
      found.amount? .right .rightScale = some second := by
  obtain ⟨low, known, amounts⟩ := Option.bind_eq_some_iff.1 amounts
  obtain ⟨high, known', same⟩ := Option.bind_eq_some_iff.1 amounts
  cases same
  exact ⟨known, known'⟩

/-- The ends of a range are the two values that it is made of. -/
theorem choose_min_max (side : Side) (first second : UInt64) :
    side.choose (min first second) (max first second) = first ∨
      side.choose (min first second) (max first second) = second := by
  by_cases ordered : first ≤ second
  · have low : min first second = first := if_pos ordered
    have high : max first second = second := if_pos ordered
    rw [low, high]
    cases side with
    | upper => exact .inr rfl
    | lower => exact .inl rfl
  · have low : min first second = second := if_neg ordered
    have high : max first second = first := if_neg ordered
    rw [low, high]
    cases side with
    | upper => exact .inl rfl
    | lower => exact .inr rfl

/-- A price is claimed for a stretch that meets nothing that was claimed before. -/
theorem Source.free
    {side : Side}
    {value : UInt64}
    {span : Span}
    (source : Source claimed text side value span) :
    span.meetsAny claimed = false := by
  cases source with
  | limit _ free _ => exact free
  | between _ free _ => exact free
  | range _ free _ _ _ _ => exact free

theorem source_of_limit?
    {side : Side}
    {value : UInt64}
    {span : Span}
    (read : limit? side.limit claimed text = some (value, span)) :
    Source claimed text side value span := by
  obtain ⟨found, member, read⟩ := List.exists_of_findSome?_eq_some read
  unfold unclaimed? at read
  split at read
  · simp at read
  · next free =>
      obtain ⟨amount, known, same⟩ := Option.map_eq_some_iff.1 read
      cases same
      exact .limit member (by simpa using free) known

theorem source_of_bareRange?
    {first second : UInt64}
    {span : Span}
    (read : (bareRange.findAll text).findSome? (bareRange? claimed) = some (first, second, span))
    (side : Side) :
    Source claimed text side (side.choose (min first second) (max first second)) span := by
  obtain ⟨found, member, read⟩ := List.exists_of_findSome?_eq_some read
  obtain ⟨amounts, known, read⟩ := Option.bind_eq_some_iff.1 read
  dsimp only at read
  split at read
  · next suits =>
      cases read
      simp only [Bool.and_eq_true, Bool.not_eq_true', decide_eq_true_eq] at suits
      obtain ⟨⟨⟨⟨begins, free⟩, unitless⟩, floor⟩, floor'⟩ := suits
      exact .range member free known ⟨floor, floor'⟩ begins unitless
  · simp at read

/-- Prices are traced to limits, amounts between two others, and bare ranges. -/
theorem isTraced_read (claimed : List Span) (text : Text) :
    (read claimed text).IsTraced (Source claimed text) := by
  have atMost : (readAtMost claimed text .nothing).IsTraced (Source claimed text) := by
    unfold readAtMost
    split
    · exact .nothing
    · next limit => exact IsTraced.nothing.claimUpper (source_of_limit? limit)
  have atLeast : (readAtLeast claimed text (readAtMost claimed text .nothing)).IsTraced
      (Source claimed text) := by
    unfold readAtLeast
    split
    · exact atMost
    · next limit => exact atMost.claimLower (source_of_limit? limit)
  unfold read readRange
  split
  · split
    · next found first =>
        have free : found.span.meetsAny claimed = false := by
          simpa using List.find?_some first
        unfold readBetween
        split
        · exact atLeast
        · next low high amounts =>
            have member := List.mem_of_find?_eq_some first
            split
            · exact atLeast.claimRange (.between member free amounts) (.between member free amounts)
            · exact atLeast
    · unfold readBareRange
      split
      · exact atLeast
      · next range =>
          exact atLeast.claimRange (source_of_bareRange? range .lower)
            (source_of_bareRange? range .upper)
  · exact atLeast

/-- Prices claim nothing that meets a stretch claimed before. -/
theorem isBuilt_read (claimed : List Span) (text : Text) :
    (read claimed text).IsBuilt fun span => span.meetsAny claimed = false :=
  (isTraced_read claimed text).isBuilt.mono fun _ ⟨_, _, source⟩ => source.free

end Budget
end SearchPhrase
