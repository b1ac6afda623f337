import SearchPhrase.Proofs.Record.Normalized
import SearchPhrase.Record.Fingerprint

/-!
# What identifies a record

A record's query string tells everything about the record but its category, whatever texts its
descriptions hold: a missing description is told from an empty one, and what separates names,
values and labels is not mistaken for a part of them.  A fingerprint tells as much, as far as the
digest tells query strings apart.
-/

namespace SearchPhrase

/-- Two different messages have one digest. -/
def Sha256.Collide (first second : List UInt8) : Prop :=
  first ≠ second ∧ Sha256.digest first = Sha256.digest second

namespace Text

theorem numeral_injective {first second : Nat} (same : numeral first = numeral second) :
    first = second := by
  have values := congrArg natural? same
  rwa [natural?_numeral, natural?_numeral, Option.some_inj] at values

theorem toBytes_injective {first second : Text} (same : toBytes first = toBytes second) :
    first = second := by
  have texts := congrArg Utf8.decode? same
  rwa [Utf8.decode?_toBytes, Utf8.decode?_toBytes, Option.some_inj] at texts

end Text

namespace FilterRecord

/-- The pairs of a record are known from its query string. -/
theorem params_eq_of_queryText
    {first second : FilterRecord}
    (same : first.queryText = second.queryText) :
    first.params = second.params := by
  have read (record : FilterRecord) :
      (queryParts record.queryText).mapM decodePair = .ok record.params := by
    rw [queryText_eq, mapM_decodePair_queryParts Percent.isCoding_encode]
  have pairs := read first
  rw [same, read second] at pairs
  exact (Except.ok.inj pairs).symm

theorem key_injective {param other : Param} (same : param.key = other.key) : param = other := by
  have known := Param.ofKey?_key param
  rw [same, Param.ofKey?_key, Option.some_inj] at known
  exact known.symm

/-- A pair is written for a parameter exactly when it has that value. -/
theorem mem_params_iff {record : FilterRecord} {param : Param} {value : Text} :
    (param.key, String.ofList value) ∈ record.params ↔ param.value? record = some value := by
  have listed : param ∈ Param.all := by cases param <;> decide
  constructor
  · intro member
    obtain ⟨other, -, written⟩ := List.mem_filterMap.1 member
    obtain ⟨text, known, same⟩ := Option.map_eq_some_iff.1 written
    obtain ⟨keys, values⟩ := Prod.mk.inj same
    obtain rfl := key_injective keys
    rwa [← String.ofList_injective values]
  · intro known
    exact List.mem_filterMap.2 ⟨param, listed, by rw [known]; rfl⟩

theorem value?_eq_of_params
    {first second : FilterRecord}
    (same : first.params = second.params)
    (param : Param) :
    param.value? first = param.value? second := by
  apply Option.ext
  intro value
  rw [← mem_params_iff, ← mem_params_iff, same]

/-- Conditions are known from their labels, and their absence from the absence of labels. -/
theorem condition_eq_of_conditionText?
    {first second : FilterRecord}
    (same : first.conditionText? [','] = second.conditionText? [',']) :
    first.condition = second.condition := by
  have read : ∀ record : FilterRecord,
      record.condition =
        ((record.conditionText? [',']).map fun text => (Param.readLabels text).toOption).elim []
          fun labels => labels.getD [] := by
    intro record
    by_cases empty : record.condition = []
    · rw [conditionText?, if_pos (by simp [empty]), empty]
      rfl
    · rw [conditionText?, if_neg (by simp [empty]), Option.map_some,
        readLabels_conditionLabels empty]
      rfl
  rw [read first, same, ← read second]

/-- Descriptions are known from their texts. -/
theorem description_eq_of_toList
    {first second : Option String}
    (same : first.map String.toList = second.map String.toList) :
    first = second :=
  Option.map_injective (fun _ _ => String.toList_inj.1) same

/-- Numbers are known from their numerals. -/
theorem number_eq_of_numeral
    {α : Type}
    {toNat : α → Nat}
    (injective : Function.Injective toNat)
    {first second : Option α}
    (same : (first.map fun number => Text.numeral (toNat number)) =
      second.map fun number => Text.numeral (toNat number)) :
    first = second :=
  Option.map_injective (fun _ _ numerals => injective (Text.numeral_injective numerals)) same

/-- Records in which a parameter has the same value hand over the same part. -/
theorem copy_eq_of_value?
    {first second : FilterRecord}
    {param : Param}
    (same : param.value? first = param.value? second)
    (target : FilterRecord) :
    param.copy first target = param.copy second target := by
  have uint32 : Function.Injective UInt32.toNat := fun _ _ => UInt32.toNat_inj.1
  have uint64 : Function.Injective UInt64.toNat := fun _ _ => UInt64.toNat_inj.1
  cases param with
  | make | model | location | color =>
      rw [Param.copy, description_eq_of_toList same]
      rfl
  | yearMin | yearMax =>
      rw [Param.copy, number_eq_of_numeral uint32 same]
      rfl
  | priceMin | priceMax | odometerMin | odometerMax =>
      rw [Param.copy, number_eq_of_numeral uint64 same]
      rfl
  | condition =>
      rw [Param.copy, condition_eq_of_conditionText? same]
      rfl
  | query =>
      rw [Param.copy, String.toList_inj.1 (Option.some_inj.1 same)]
      rfl

/-- A record is known from its pairs, but for the category. -/
theorem eq_of_params
    {first second : FilterRecord}
    (same : first.params = second.params) :
    { first with category := none } = { second with category := none } := by
  have handed (record : FilterRecord) :
      Param.all.foldl (Param.copy record) {} = { record with category := none } := by
    simp only [Param.all, List.foldl_cons, List.foldl_nil, Param.copy]
  have copies : Param.copy first = Param.copy second := by
    funext target param
    exact copy_eq_of_value? (value?_eq_of_params same param) target
  rw [← handed, copies, handed]

/-- The category is not written. -/
theorem params_category_none (record : FilterRecord) :
    { record with category := none }.params = record.params := by
  have value?_eq (param : Param) :
      param.value? { record with category := none } = param.value? record := by
    cases param <;> rfl
  simp only [params, value?_eq]

/-- Records have the same query string exactly when they agree on everything but the category; and
they have the same fingerprint exactly when they do so, or when their query strings collide. -/
theorem queryString_fingerprint_eq_iff (first second : FilterRecord) :
    (first.queryString = second.queryString ↔
        { first with category := none } = { second with category := none }) ∧
      (first.fingerprint = second.fingerprint ↔
        { first with category := none } = { second with category := none } ∨
          Sha256.Collide (Text.toBytes first.queryText) (Text.toBytes second.queryText)) := by
  have texts : first.queryText = second.queryText ↔
      { first with category := none } = { second with category := none } := by
    constructor
    · intro same
      exact eq_of_params (params_eq_of_queryText same)
    · intro agree
      rw [queryText, ← params_category_none, agree, params_category_none, ← queryText]
  refine ⟨?_, ?_⟩
  · rw [← texts]
    exact ⟨String.ofList_injective, congrArg String.ofList⟩
  · rw [fingerprint, fingerprint, Fingerprint.mk.injEq]
    constructor
    · intro digests
      by_cases same : Text.toBytes first.queryText = Text.toBytes second.queryText
      · exact .inl (texts.1 (Text.toBytes_injective same))
      · exact .inr ⟨same, digests⟩
    · rintro (agree | ⟨-, digests⟩)
      · rw [texts.2 agree]
      · exact digests

/-- An empty make is told from a missing one. -/
example : ({ make := some "", query := "*" } : FilterRecord).queryString = "make=&query=%2A" := by
  rfl

end FilterRecord
end SearchPhrase
