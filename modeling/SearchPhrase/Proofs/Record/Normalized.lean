import SearchPhrase.Proofs.Record.QueryText
import SearchPhrase.Proofs.Unicode.Lowercase

/-!
# What reading makes of a written record

Writing a record and reading it back tidies the record up: descriptions are trimmed and unset when
blank, the model is put into lower case, the category is dropped, and a blank query matches
everything.  The tidy record is then refused if it has a model without a make or a range whose ends
are the wrong way round.
-/

namespace SearchPhrase

/-- The lower end of a range does not lie above the upper end. -/
def Bounds.IsOrdered {α : Type} [LT α] (bounds : Bounds α) : Prop :=
  ∀ low ∈ bounds.lower, ∀ high ∈ bounds.upper, ¬high < low

theorem Bounds.isOrdered_iff
    {α : Type}
    [LT α]
    [DecidableLT α]
    {bounds : Bounds α} :
    bounds.IsOrdered ↔ bounds.isReversed = false :=
  isReversed_eq_false_iff.symm

instance {α : Type} [LT α] [DecidableLT α] (bounds : Bounds α) : Decidable bounds.IsOrdered :=
  decidable_of_iff _ Bounds.isOrdered_iff.symm

namespace FilterRecord

/-- A description without white space at its ends, unset when nothing else is there. -/
def tidied (value : Option String) : Option String :=
  (value.map fun text => Text.trim text.toList).bind fun text =>
    if text = [] then none else some (String.ofList text)

/-- The form into which reading brings a record. -/
def normalized (record : FilterRecord) : FilterRecord where
  make := tidied record.make
  model := (tidied record.model).map fun model => String.ofList (Unicode.lowercase model.toList)
  year := record.year
  price := record.price
  odometer := record.odometer
  location := tidied record.location
  color := tidied record.color
  condition := record.condition
  category := none
  query := (tidied (some record.query)).getD "*"

/-- A model comes with a make, and no range has its ends the wrong way round. -/
structure IsConsistent (record : FilterRecord) : Prop where
  /-- A model comes with a make. -/
  make_of_model : record.model.isSome → record.make.isSome
  /-- The years are ordered. -/
  year : record.year.IsOrdered
  /-- The prices are ordered. -/
  price : record.price.IsOrdered
  /-- The odometer readings are ordered. -/
  odometer : record.odometer.IsOrdered

/-- A record, or the first reason to refuse it. -/
def verdict (record : FilterRecord) : Except ParamError FilterRecord :=
  match record.make, record.model with
  | none, some model => .error (.invalid "model" model)
  | _, _ =>
      if ¬record.year.IsOrdered then .error (.reversed .year)
      else if ¬record.price.IsOrdered then .error (.reversed .price)
      else if ¬record.odometer.IsOrdered then .error (.reversed .odometer)
      else .ok record

theorem verdict_of_isConsistent {record : FilterRecord} (consistent : record.IsConsistent) :
    record.verdict = .ok record := by
  obtain ⟨make_of_model, year, price, odometer⟩ := consistent
  unfold verdict
  split
  · next model noMake someModel =>
      simp [noMake, someModel] at make_of_model
  · rw [if_neg (not_not_intro year), if_neg (not_not_intro price), if_neg (not_not_intro odometer)]

/-- What lies behind a check is reached only where the check holds. -/
theorem of_check_eq_ok
    {ε α : Type}
    {check : Prop}
    [Decidable check]
    {error : ε}
    {next : Except ε α}
    {value : α}
    (accepted : (if ¬check then .error error else next) = .ok value) :
    check ∧ next = .ok value := by
  by_cases holds : check
  · rw [if_neg (not_not_intro holds)] at accepted
    exact ⟨holds, accepted⟩
  · rw [if_pos holds] at accepted
    cases accepted

/-- Only a consistent record is accepted, and as it is. -/
theorem verdict_eq_ok_iff {record result : FilterRecord} :
    record.verdict = .ok result ↔ record.IsConsistent ∧ result = record := by
  constructor
  · intro accepted
    unfold verdict at accepted
    split at accepted
    · cases accepted
    · next mismatch =>
        have make_of_model : record.model.isSome → record.make.isSome := by
          intro someModel
          obtain ⟨model, found⟩ := Option.isSome_iff_exists.1 someModel
          refine Option.isSome_iff_ne_none.2 fun noMake => ?_
          exact mismatch model noMake found
        obtain ⟨year, accepted⟩ := of_check_eq_ok accepted
        obtain ⟨price, accepted⟩ := of_check_eq_ok accepted
        obtain ⟨odometer, accepted⟩ := of_check_eq_ok accepted
        cases accepted
        exact ⟨⟨make_of_model, year, price, odometer⟩, rfl⟩
  · rintro ⟨consistent, rfl⟩
    exact verdict_of_isConsistent consistent

/-! ## One written value at a time -/

/-- The normal form before a missing query is made up for. -/
def trimmed (record : FilterRecord) : FilterRecord :=
  { record.normalized with query := (tidied (some record.query)).getD "" }

theorem completeQuery_trimmed (record : FilterRecord) :
    record.trimmed.completeQuery = record.normalized := by
  unfold completeQuery trimmed normalized tidied matchAllQuery
  by_cases blank : Text.trim record.query.toList = []
  · simp [blank]
  · simp [blank]

end FilterRecord

namespace Param

/-- One record with a parameter taken over from another. -/
def copy (source target : FilterRecord) : Param → FilterRecord
  | make => { target with make := source.make }
  | model => { target with model := source.model }
  | yearMin => { target with year := { target.year with lower := source.year.lower } }
  | yearMax => { target with year := { target.year with upper := source.year.upper } }
  | priceMin => { target with price := { target.price with lower := source.price.lower } }
  | priceMax => { target with price := { target.price with upper := source.price.upper } }
  | odometerMin =>
      { target with odometer := { target.odometer with lower := source.odometer.lower } }
  | odometerMax =>
      { target with odometer := { target.odometer with upper := source.odometer.upper } }
  | location => { target with location := source.location }
  | color => { target with color := source.color }
  | condition => { target with condition := source.condition }
  | query => { target with query := source.query }

/-- A parameter of a record is as in the record of which nothing is set. -/
def IsUnset (target : FilterRecord) (param : Param) : Prop :=
  copy {} target param = target

theorem copy_comm
    (first second target : FilterRecord)
    {param other : Param}
    (different : other ≠ param) :
    copy first (copy second target param) other = copy second (copy first target other) param := by
  cases param <;> cases other <;> first | rfl | exact absurd rfl different

/-- Taking over one parameter leaves every other one unset that was so before. -/
theorem isUnset_copy
    {source target : FilterRecord}
    {param other : Param}
    (different : other ≠ param)
    (unset : IsUnset target other) :
    IsUnset (copy source target param) other := by
  rw [IsUnset, copy_comm {} source target different, unset]

theorem ofKey?_key (param : Param) : ofKey? param.key = some param := by
  cases param <;> decide

end Param

namespace FilterRecord

/-- A written value is passed over when it is blank and assigned to its parameter otherwise. -/
theorem takeParam_key (target : FilterRecord) (param : Param) (value : Text) :
    target.takeParam (param.key, String.ofList value) =
      if Text.trim value = [] then .ok target else param.assign target (Text.trim value) := by
  rw [takeParam]
  simp only [String.toList_ofList, Param.ofKey?_key, List.isEmpty_iff]

theorem takeParam_trimmed
    (target : FilterRecord)
    (param : Param)
    {value : Text}
    (isTrimmed : Text.IsTrimmed value) :
    target.takeParam (param.key, String.ofList value) = param.assign target value := by
  rw [takeParam_key, isTrimmed.2, if_neg isTrimmed.1]

theorem isTrimmed_numeral (n : Nat) : Text.IsTrimmed (Text.numeral n) := by
  apply Text.isTrimmed_of_solid (Text.numeral_ne_nil n)
  intro c member
  have digit := Text.isDigit_of_mem_numeral member
  exact Unicode.forall_ascii (P := fun c => c.isDigit = true → Unicode.isWhiteSpace c = false)
    (by decide) (Unicode.ascii_of_isDigit digit) digit

theorem isTrimmed_label (condition : Condition) : Text.IsTrimmed condition.label.toList := by
  cases condition <;> decide

theorem not_mem_label (condition : Condition) : ',' ∉ condition.label.toList := by
  cases condition <;> decide

theorem ofLabel?_label (condition : Condition) :
    Condition.ofLabel? condition.label.toList = some condition := by
  cases condition <;> decide

theorem mapM_readLabel_label (conditions : List Condition) :
    (conditions.map fun condition => condition.label.toList).mapM Param.readLabel =
      .ok conditions := by
  induction conditions with
  | nil => rfl
  | cons condition conditions ih =>
      rw [List.map_cons, List.mapM_cons, Param.readLabel, ofLabel?_label, ih]
      rfl

/-- The labels of conditions, joined with commas, are read as these conditions. -/
theorem readLabels_conditionLabels
    {conditions : List Condition}
    (nonempty : conditions ≠ []) :
    Param.readLabels (conditionLabels [','] conditions) = .ok conditions := by
  have parts : List.splitOn ',' (conditionLabels [','] conditions) =
      conditions.map fun condition => condition.label.toList := by
    apply List.splitOn_intercalate
    · intro label member
      obtain ⟨condition, -, rfl⟩ := List.mem_map.1 member
      exact not_mem_label condition
    · simpa using nonempty
  rw [Param.readLabels, parts, List.filter_eq_self.2, mapM_readLabel_label]
  intro label member
  obtain ⟨condition, -, rfl⟩ := List.mem_map.1 member
  simp [(isTrimmed_label condition).isBlank_eq_false]

theorem isTrimmed_conditionLabels
    {conditions : List Condition}
    (nonempty : conditions ≠ []) :
    Text.IsTrimmed (conditionLabels [','] conditions) := by
  apply Text.isTrimmed_intercalate
  · simpa using nonempty
  · intro label member
    obtain ⟨condition, -, rfl⟩ := List.mem_map.1 member
    exact isTrimmed_label condition

/-- What a record becomes when a parameter is taken in, provided that a value of it is written. -/
def takeWritten (target : FilterRecord) (param : Param) :
    Option Text → Except ParamError FilterRecord
  | none => .ok target
  | some value => target.takeParam (param.key, String.ofList value)

/-- A written description is taken in tidied up. -/
theorem takeWritten_description
    {target : FilterRecord}
    {param : Param}
    (value : Option String)
    (assigned : Option String → FilterRecord)
    (assign : ∀ text, param.assign target text = .ok (assigned (some (String.ofList text))))
    (unset : assigned none = target) :
    target.takeWritten param (value.map String.toList) = .ok (assigned (tidied value)) := by
  cases value with
  | none => exact congrArg Except.ok unset.symm
  | some text =>
      rw [Option.map_some, takeWritten, takeParam_key, tidied, Option.map_some, Option.bind_some]
      by_cases blank : Text.trim text.toList = []
      · rw [if_pos blank, if_pos blank, unset]
      · rw [if_neg blank, if_neg blank, assign]

/-- A written number is taken in as it is by what reads numerals of its kind. -/
theorem takeWritten_number
    {α : Type}
    {target : FilterRecord}
    {param : Param}
    {toNat : α → Nat}
    {read? : Text → Option α}
    (read?_numeral : ∀ number, read? (Text.numeral (toNat number)) = some number)
    (value : Option α)
    (assigned : Option α → FilterRecord)
    (assign : ∀ text, param.assign target text = do
      let number ← param.require text (read? text)
      .ok (assigned (some number)))
    (unset : assigned none = target) :
    target.takeWritten param (value.map fun number => Text.numeral (toNat number)) =
      .ok (assigned value) := by
  cases value with
  | none => exact congrArg Except.ok unset.symm
  | some number =>
      rw [Option.map_some, takeWritten, takeParam_trimmed _ _ (isTrimmed_numeral _), assign,
        read?_numeral]
      rfl

/-- Written conditions are taken in as they are. -/
theorem takeWritten_condition
    (source : FilterRecord)
    {target : FilterRecord}
    (unset : target.condition = []) :
    target.takeWritten .condition (source.conditionText? [',']) =
      .ok { target with condition := source.condition } := by
  by_cases empty : source.condition = []
  · rw [conditionText?, if_pos (by simp [empty]), takeWritten, empty, ← unset]
  · rw [conditionText?, if_neg (by simp [empty]), takeWritten,
      takeParam_trimmed _ _ (isTrimmed_conditionLabels empty), Param.assign,
      readLabels_conditionLabels empty]
    rfl

/-- A parameter that is not set yet takes its value from the normal form of what is written. -/
theorem takeWritten_value?
    (source target : FilterRecord)
    (param : Param)
    (unset : Param.IsUnset target param) :
    target.takeWritten param (param.value? source) =
      .ok (Param.copy source.trimmed target param) := by
  cases param with
  | make =>
      exact takeWritten_description source.make
        (fun make => { target with make := make }) (fun _ => rfl) unset
  | model =>
      refine takeWritten_description source.model
        (fun model => { target with
          model := model.map fun text => String.ofList (Unicode.lowercase text.toList) })
        (fun text => ?_) unset
      rw [Param.assign, Option.map_some, String.toList_ofList]
  | yearMin =>
      exact takeWritten_number Text.uint32?_numeral source.year.lower
        (fun year => { target with year := { target.year with lower := year } })
        (fun _ => rfl) unset
  | yearMax =>
      exact takeWritten_number Text.uint32?_numeral source.year.upper
        (fun year => { target with year := { target.year with upper := year } })
        (fun _ => rfl) unset
  | priceMin =>
      exact takeWritten_number Text.uint64?_numeral source.price.lower
        (fun price => { target with price := { target.price with lower := price } })
        (fun _ => rfl) unset
  | priceMax =>
      exact takeWritten_number Text.uint64?_numeral source.price.upper
        (fun price => { target with price := { target.price with upper := price } })
        (fun _ => rfl) unset
  | odometerMin =>
      exact takeWritten_number Text.uint64?_numeral source.odometer.lower
        (fun distance => { target with odometer := { target.odometer with lower := distance } })
        (fun _ => rfl) unset
  | odometerMax =>
      exact takeWritten_number Text.uint64?_numeral source.odometer.upper
        (fun distance => { target with odometer := { target.odometer with upper := distance } })
        (fun _ => rfl) unset
  | location =>
      exact takeWritten_description source.location
        (fun location => { target with location := location }) (fun _ => rfl) unset
  | color =>
      exact takeWritten_description source.color
        (fun color => { target with color := color }) (fun _ => rfl) unset
  | condition => exact takeWritten_condition source (congrArg FilterRecord.condition unset).symm
  | query =>
      exact takeWritten_description (some source.query)
        (fun query => { target with query := query.getD "" }) (fun _ => rfl) unset

/-- Taking in the written values of distinct parameters takes each over from the normal form. -/
theorem foldlM_takeWritten
    (source : FilterRecord)
    {params : List Param}
    (distinct : params.Nodup)
    (target : FilterRecord)
    (unset : ∀ param ∈ params, Param.IsUnset target param) :
    params.foldlM (fun record param => record.takeWritten param (param.value? source)) target =
      .ok (params.foldl (Param.copy source.trimmed) target) := by
  induction params generalizing target with
  | nil => rfl
  | cons param params ih =>
      obtain ⟨absent, distinct⟩ := List.nodup_cons.1 distinct
      rw [List.foldlM_cons, takeWritten_value? source target param (unset param (by simp)),
        List.foldl_cons]
      refine ih distinct _ fun other member => ?_
      apply Param.isUnset_copy
      · rintro rfl
        exact absent member
      · exact unset other (List.mem_cons_of_mem _ member)

theorem foldlM_params (source target : FilterRecord) :
    source.params.foldlM takeParam target =
      Param.all.foldlM (fun record param => record.takeWritten param (param.value? source))
        target := by
  rw [params, List.foldlM_filterMap]
  congr 1
  funext record param
  cases param.value? source <;> rfl

/-- The verdict is the first inconsistency, if there is any. -/
theorem verdict_eq (record : FilterRecord) :
    record.verdict = record.inconsistency?.elim (.ok record) .error := by
  obtain ⟨make, model, year, price, odometer, _, _, _, _, _⟩ := record
  unfold verdict inconsistency?
  simp only [Bounds.isOrdered_iff, Bool.not_eq_false]
  cases make <;> cases model
  case none.some => rfl
  all_goals
    cases year.isReversed
    case true => rfl
    cases price.isReversed
    case true => rfl
    cases odometer.isReversed <;> rfl

/-- What has been taken in is given its verdict once a missing query is made up for. -/
theorem finish_eq_verdict (record : FilterRecord) :
    record.finish = record.completeQuery.verdict := by
  have same : record.completeQuery.inconsistency? = record.inconsistency? := by
    unfold completeQuery
    split <;> rfl
  rw [finish, verdict_eq, same]
  cases record.inconsistency? <;> rfl

theorem finish_trimmed (record : FilterRecord) :
    record.trimmed.finish = record.normalized.verdict := by
  rw [finish_eq_verdict, completeQuery_trimmed]

/-- Reading the pairs of a record gives the verdict on its normal form. -/
theorem ofParams_params (record : FilterRecord) :
    ofParams record.params = record.normalized.verdict := by
  have distinct : Param.all.Nodup := by decide
  have unset : ∀ param ∈ Param.all, Param.IsUnset {} param := by
    intro param _
    cases param <;> rfl
  have copied : Param.all.foldl (Param.copy record.trimmed) {} = record.trimmed := rfl
  rw [ofParams, foldlM_params, foldlM_takeWritten record distinct {} unset, copied]
  exact finish_trimmed record

/-- So does reading its query string. -/
theorem ofQueryString_queryString_eq_verdict (record : FilterRecord) :
    ofQueryString record.queryString = record.normalized.verdict := by
  rw [ofQueryString_queryString_eq_ofParams, ofParams_params]

/-- The query string of a record is read as the verdict on its normal form, and the record comes
back unchanged exactly when it is in normal form and consistent. -/
theorem ofQueryString_queryString (record : FilterRecord) :
    ofQueryString record.queryString = record.normalized.verdict ∧
      (ofQueryString record.queryString = .ok record ↔
        record.normalized = record ∧ record.IsConsistent) := by
  refine ⟨ofQueryString_queryString_eq_verdict record, ?_⟩
  rw [ofQueryString_queryString_eq_verdict, verdict_eq_ok_iff]
  constructor
  · rintro ⟨consistent, same⟩
    exact ⟨same.symm, same ▸ consistent⟩
  · rintro ⟨same, consistent⟩
    exact ⟨same.symm ▸ consistent, same.symm⟩

end FilterRecord
end SearchPhrase
