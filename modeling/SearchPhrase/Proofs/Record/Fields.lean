import Mathlib.Logic.Relation
import SearchPhrase.Interpretation.Lemmas

/-!
# Records that are read from JSON

A record is read back from the JSON value that it is written as, and from either printed form of
that value.  What an object has besides the fields of a record has no part in the reading, and an
optional field other than the conditions may be given as null where it is not set.
-/

namespace SearchPhrase

namespace Json

theorem lookup?_append (name : String) (fields others : List (String × Json)) :
    lookup? name (fields ++ others) = (lookup? name others).or (lookup? name fields) := by
  induction fields with
  | nil => simp [lookup?]
  | cons field fields ih =>
      obtain ⟨key, value⟩ := field
      rw [List.cons_append, lookup?, ih, lookup?, Option.or_assoc]

theorem lookup?_optional (name key : String) (value : Option Json) :
    lookup? name (optional key value) = if key = name then value else none := by
  cases value <;> simp [optional, lookup?]

/-- The fields for some values, of which any may be unset. -/
def settings (values : List (String × Option Json)) : List (String × Json) :=
  values.flatMap fun entry => optional entry.1 entry.2

theorem lookup?_settings_of_not_mem
    {values : List (String × Option Json)}
    {name : String}
    (absent : name ∉ values.map Prod.fst) :
    lookup? name (settings values) = none := by
  induction values with
  | nil => rfl
  | cons entry values ih =>
      obtain ⟨different, absent⟩ := List.ne_and_not_mem_of_not_mem_cons absent
      rw [settings, List.flatMap_cons, lookup?_append, ← settings, ih absent, lookup?_optional,
        if_neg different.symm, Option.or_none]

/-- A value is found under its name, if no name comes twice. -/
theorem lookup?_settings
    {values : List (String × Option Json)}
    (distinct : (values.map Prod.fst).Nodup)
    {name : String}
    {value : Option Json}
    (member : (name, value) ∈ values) :
    lookup? name (settings values) = value := by
  induction values with
  | nil => exact absurd member List.not_mem_nil
  | cons entry values ih =>
      obtain ⟨new, apart⟩ := List.nodup_cons.1 distinct
      rw [settings, List.flatMap_cons, lookup?_append, ← settings, lookup?_optional]
      rcases List.mem_cons.1 member with rfl | later
      · rw [lookup?_settings_of_not_mem new, if_pos rfl, Option.none_or]
      · have different : entry.1 ≠ name := by
          intro same
          exact new (same ▸ List.mem_map_of_mem later)
        rw [ih apart later, if_neg different, Option.or_none]

/-- A field in between is found under its own name only. -/
theorem lookup?_insert_of_ne
    {name key : String}
    (different : key ≠ name)
    (value : Json)
    (before after : List (String × Json)) :
    lookup? name (before ++ (key, value) :: after) = lookup? name (before ++ after) := by
  rw [lookup?_append, lookup?, if_neg different, Option.or_none, lookup?_append]

/-- A field whose name is new is found. -/
theorem lookup?_insert_of_eq_none
    {name : String}
    {value : Json}
    {before after : List (String × Json)}
    (absent : lookup? name (before ++ after) = none) :
    lookup? name (before ++ (name, value) :: after) = some value := by
  rw [lookup?_append, Option.or_eq_none_iff] at absent
  rw [lookup?_append, lookup?, if_pos rfl, absent.1]
  rfl

/-- What is written for a value is not null and is read as the value. -/
structure IsRead {α : Type} (write : α → Json) (read : Json → Option α) : Prop where
  /-- The value is read back. -/
  reads : ∀ value, read (write value) = some value
  /-- It is not written as null. -/
  solid : ∀ value, write value ≠ null

theorem IsRead.setting?_map
    {α : Type}
    {write : α → Json}
    {read : Json → Option α}
    (isRead : IsRead write read)
    (value : Option α) :
    setting? read (value.map write) = some value := by
  cases value with
  | none => rfl
  | some value =>
      have solid := isRead.solid value
      rw [Option.map_some, setting?, isRead.reads, Option.map_some]
      exact solid

theorem isRead_string : IsRead string string? where
  reads := fun _ => rfl
  solid := fun _ => Json.noConfusion

theorem natBelow?_ofNat {limit n : Nat} (below : n < limit) :
    (ofNat n).natBelow? limit = some n := by
  simp [natBelow?, ofNat, below]

theorem isRead_uint32 : IsRead (fun value : UInt32 => ofNat value.toNat) uint32? where
  reads := by
    intro value
    rw [uint32?, natBelow?_ofNat value.toNat_lt_size, Option.map_some, UInt32.ofNat_toNat]
  solid := fun _ => Json.noConfusion

theorem isRead_uint64 : IsRead (fun value : UInt64 => ofNat value.toNat) uint64? where
  reads := by
    intro value
    rw [uint64?, natBelow?_ofNat value.toNat_lt_size, Option.map_some, UInt64.ofNat_toNat]
  solid := fun _ => Json.noConfusion

theorem isRead_condition :
    IsRead (fun condition : Condition => string condition.label) condition? where
  reads := by
    intro condition
    cases condition <;> rfl
  solid := fun _ => Json.noConfusion

theorem isRead_category : IsRead (fun category : Category => string category.label) category? where
  reads := by
    intro category
    cases category <;> rfl
  solid := fun _ => Json.noConfusion

theorem conditions?_labels (conditions : List Condition) :
    conditions? (array (conditions.map fun condition => string condition.label)) =
      some conditions := by
  rw [conditions?, items?, Option.bind_some]
  induction conditions with
  | nil => rfl
  | cons condition conditions ih =>
      rw [List.map_cons, List.mapM_cons, isRead_condition.reads, ih]
      rfl

end Json

namespace FilterRecord

open Json

theorem elim_conditionsJson? (record : FilterRecord) :
    record.conditionsJson?.elim (some []) conditions? = some record.condition := by
  rw [conditionsJson?]
  split
  · next nothing => rw [List.isEmpty_iff.1 nothing]; rfl
  · exact conditions?_labels record.condition

/-- The values of a record's fields, in order. -/
def fieldValues (record : FilterRecord) : List (String × Option Json) :=
  [("make", record.make.map .string), ("model", record.model.map .string),
    ("yearMin", record.year.lower.map fun value => .ofNat value.toNat),
    ("yearMax", record.year.upper.map fun value => .ofNat value.toNat),
    ("priceMin", record.price.lower.map fun value => .ofNat value.toNat),
    ("priceMax", record.price.upper.map fun value => .ofNat value.toNat),
    ("odometerMin", record.odometer.lower.map fun value => .ofNat value.toNat),
    ("odometerMax", record.odometer.upper.map fun value => .ofNat value.toNat),
    ("location", record.location.map .string), ("color", record.color.map .string),
    ("condition", record.conditionsJson?),
    ("category", record.category.map fun category => .string category.label),
    ("query", some (.string record.query))]

theorem map_fst_fieldValues (record : FilterRecord) :
    record.fieldValues.map Prod.fst = fieldNames := rfl

theorem nodup_fieldNames : fieldNames.Nodup := by
  decide

theorem jsonFields_eq (record : FilterRecord) :
    record.jsonFields = settings record.fieldValues := by
  simp [jsonFields, fieldValues, settings, Json.optional]

/-- Whatever gives a record's values by name is read as the record. -/
theorem ofFields?_of_fieldValues
    {record : FilterRecord}
    {field? : String → Option Json}
    (gives : ∀ entry ∈ record.fieldValues, field? entry.1 = entry.2) :
    ofFields? field? = some record := by
  simp only [fieldValues, List.forall_mem_cons, List.not_mem_nil, false_implies, implies_true,
    and_true] at gives
  obtain ⟨make, model, yearMin, yearMax, priceMin, priceMax, odometerMin, odometerMax, location,
    color, condition, category, query⟩ := gives
  simp only [ofFields?, make, model, yearMin, yearMax, priceMin, priceMax, odometerMin,
    odometerMax, location, color, condition, category, query, isRead_string.setting?_map,
    isRead_uint32.setting?_map, isRead_uint64.setting?_map, isRead_category.setting?_map,
    elim_conditionsJson?]
  rfl

/-- A record is read back from the value that it is written as. -/
theorem ofJson?_toJson (record : FilterRecord) : ofJson? record.toJson = some record := by
  have distinct : (record.fieldValues.map Prod.fst).Nodup := by
    rw [map_fst_fieldValues]
    exact nodup_fieldNames
  rw [toJson, ofJson?, jsonFields_eq]
  exact ofFields?_of_fieldValues fun entry member => lookup?_settings distinct member

/-! ## Fields that say nothing -/

/-- The fields that may be null. -/
def nullableNames : List String :=
  ["make", "model", "yearMin", "yearMax", "priceMin", "priceMax", "odometerMin", "odometerMax",
    "location", "color", "category"]

/-- An object has one more field than another, which is of a name that no record has, or which gives
as null what is not set. -/
inductive IsPaddedBy : List (String × Json) → List (String × Json) → Prop where
  /-- The name is unknown. -/
  | unknown (before after : List (String × Json)) {name : String} (value : Json)
      (foreign : name ∉ fieldNames) :
      IsPaddedBy (before ++ after) (before ++ (name, value) :: after)
  /-- The field is not set, and could be. -/
  | unset (before after : List (String × Json)) {name : String} (nullable : name ∈ nullableNames)
      (absent : lookup? name (before ++ after) = none) :
      IsPaddedBy (before ++ after) (before ++ (name, .null) :: after)

/-- Reading does not tell an optional field that is null from one that is missing. -/
theorem ofFields?_congr
    {field? other? : String → Option Json}
    (agree : ∀ name ∈ fieldNames, other? name = field? name ∨
      (name ∈ nullableNames ∧ field? name = none ∧ other? name = some .null)) :
    ofFields? other? = ofFields? field? := by
  have setting {α : Type} (read : Json → Option α) :
      ∀ name ∈ nullableNames, setting? read (other? name) = setting? read (field? name) := by
    intro name nullable
    have known : ∀ name ∈ nullableNames, name ∈ fieldNames := by decide
    rcases agree name (known name nullable) with same | ⟨-, missing, null⟩
    · rw [same]
    · rw [missing, null]
      rfl
  have given : ∀ name ∈ ["condition", "query"], other? name = field? name := by
    intro name required
    have strict : ∀ name ∈ ["condition", "query"], name ∈ fieldNames ∧ name ∉ nullableNames := by
      decide
    apply (agree name (strict name required).1).resolve_right
    exact fun null => (strict name required).2 null.1
  simp only [nullableNames, List.forall_mem_cons, List.not_mem_nil, false_implies, implies_true,
    and_true] at setting given
  simp only [ofFields?, setting, given]

/-- One more field that says nothing changes nothing about the record that is read. -/
theorem ofJson?_of_isPaddedBy
    {fields padded : List (String × Json)}
    (pads : IsPaddedBy fields padded) :
    ofJson? (.object padded) = ofJson? (.object fields) := by
  rw [ofJson?, ofJson?]
  apply ofFields?_congr
  intro name known
  cases pads with
  | @unknown before after key value foreign =>
      have different : key ≠ name := by
        rintro rfl
        exact foreign known
      exact .inl (lookup?_insert_of_ne different value before after)
  | @unset before after key nullable absent =>
      by_cases same : key = name
      · subst same
        exact .inr ⟨nullable, absent, lookup?_insert_of_eq_none absent⟩
      · exact .inl (lookup?_insert_of_ne same .null before after)

/-- A record is read back from the value that it is written as, and from either printed form of it.
Any number of fields with unknown names, and of nulls for optional fields that are not set, may be
put anywhere in an object without changing what is read from it. -/
theorem reads_padded :
    (∀ record : FilterRecord,
      ofJson? record.toJson = some record ∧
        (parse? record.toJson.compact).bind ofJson? = some record ∧
        (parse? record.toJson.indented).bind ofJson? = some record) ∧
      ∀ fields padded : List (String × Json), Relation.ReflTransGen IsPaddedBy fields padded →
        ofJson? (.object padded) = ofJson? (.object fields) := by
  constructor
  · intro record
    have reads := ofJson?_toJson record
    refine ⟨reads, ?_, ?_⟩
    · rw [parse?_compact_toJson, Option.bind_some, reads]
    · rw [parse?_indented_toJson, Option.bind_some, reads]
  · intro fields padded pads
    induction pads with
    | refl => rfl
    | tail _ pads ih => rw [ofJson?_of_isPaddedBy pads, ih]

/-- A make that is null and a field with an unknown name change nothing. -/
theorem reads_padded_brand :
    Relation.ReflTransGen IsPaddedBy [("query", .string "tent")]
        [("brand", .bool true), ("make", .null), ("query", .string "tent")] ∧
      ofJson? (.object [("brand", .bool true), ("make", .null), ("query", .string "tent")]) =
        some { query := "tent" } := by
  have first : IsPaddedBy [("query", .string "tent")]
      [("make", .null), ("query", .string "tent")] :=
    .unset [] _ (by decide) rfl
  have second : IsPaddedBy [("make", .null), ("query", .string "tent")]
      [("brand", .bool true), ("make", .null), ("query", .string "tent")] :=
    .unknown [] _ (.bool true) (by decide)
  have pads := (Relation.ReflTransGen.single first).tail second
  refine ⟨pads, ?_⟩
  rw [reads_padded.2 _ _ pads]
  exact (reads_padded.1 { query := "tent" }).1

end FilterRecord
end SearchPhrase
