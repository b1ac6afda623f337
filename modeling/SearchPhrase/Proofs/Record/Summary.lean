import SearchPhrase.Proofs.Record.Displays

/-!
# What a summary tells

The parts of a summary are joined by a separator that may occur in a part: a description is free
text.  What follows the separator, though, is a label, which begins with a capital letter.  As long
as no capital letter comes after a middle dot in a description, the parts are known from the
summary, and the record from its parts, but for the keywords and the category.
-/

namespace SearchPhrase

namespace Text

/-- Joining puts a separator in front of every part but the first. -/
theorem separator_append_intercalate
    (separator : Text)
    {parts : List Text}
    (nonempty : parts ≠ []) :
    separator ++ List.intercalate separator parts = parts.flatMap (separator ++ ·) := by
  induction parts with
  | nil => exact absurd rfl nonempty
  | cons part parts ih =>
      cases parts with
      | nil => simp
      | cons next parts =>
          rw [List.intercalate_cons_cons, List.flatMap_cons, ← ih (List.cons_ne_nil _ _)]
          simp only [List.append_assoc]

section Items

variable {α : Type} {code : α → Text}

/-- A list is known from what is written for its items, one after another, if every list that is not
empty tells its first item. -/
theorem eq_of_flatMap_eq
    (valid : α → Prop)
    (visible : ∀ item, code item ≠ [])
    (head_eq : ∀ {first second : α} {rest rest' : List α},
      (∀ item ∈ first :: rest, valid item) → (∀ item ∈ second :: rest', valid item) →
        (first :: rest).flatMap code = (second :: rest').flatMap code → first = second)
    {items items' : List α}
    (all : ∀ item ∈ items, valid item)
    (all' : ∀ item ∈ items', valid item)
    (same : items.flatMap code = items'.flatMap code) :
    items = items' := by
  induction items generalizing items' with
  | nil =>
      cases items' with
      | nil => rfl
      | cons second rest' => simp [visible] at same
  | cons first rest ih =>
      cases items' with
      | nil => simp [visible] at same
      | cons second rest' =>
          obtain rfl := head_eq all all' same
          have others := ih (fun item member => all item (List.mem_cons_of_mem _ member))
            (fun item member => all' item (List.mem_cons_of_mem _ member))
            (List.append_cancel_left same)
          rw [others]

end Items

/-- No capital letter comes after a middle dot. -/
def IsUndivided (text : Text) : Prop :=
  ∀ before after, text = before ++ '·' :: after → ∀ c ∈ after, c.isUpper = false

theorem isUndivided_of_not_mem {text : Text} (absent : '·' ∉ text) : IsUndivided text := by
  rintro before after rfl
  simp at absent

theorem isUndivided_of_isUpper {text : Text} (small : ∀ c ∈ text, c.isUpper = false) :
    IsUndivided text := by
  rintro before after rfl c member
  apply small
  simp [member]

end Text

namespace FilterRecord

open Text

/-- A part of a summary comes to an end: nothing follows, or a separator and a capital letter. -/
def EndsPart (rest : Text) : Prop :=
  rest = [] ∨ ∃ c others, rest = summarySeparator ++ c :: others ∧ c.isUpper = true

/-- A description does not go on where another one could have come to its end. -/
theorem eq_nil_of_endsPart
    {text more rest : Text}
    (undivided : IsUndivided (text ++ more))
    (ends : EndsPart (more ++ rest))
    (ends' : EndsPart rest) :
    more = [] := by
  rcases ends with nothing | ⟨c, others, split, capital⟩
  · exact (List.append_eq_nil_iff.1 nothing).1
  · have plain : ' ' ≠ c ∧ '·' ≠ c := by
      constructor <;> rintro rfl <;> exact absurd capital (by decide)
    have marks : summarySeparator = [' ', '·', ' '] := by decide
    rw [marks] at split
    -- A separator cannot begin within another one, and a whole one is not in the description.
    obtain _ | ⟨first, _ | ⟨second, _ | ⟨third, _ | ⟨fourth, tail⟩⟩⟩⟩ := more
    case nil => rfl
    case cons.cons.cons.cons =>
        obtain ⟨rfl, rfl, rfl, rfl, -⟩ : ' ' = first ∧ '·' = second ∧ ' ' = third ∧ c = fourth ∧
            others = tail ++ rest := by simpa [eq_comm] using split
        have small := undivided (text ++ [' ']) (' ' :: c :: tail) (by simp) c (by simp)
        rw [small] at capital
        exact absurd capital Bool.false_ne_true
    all_goals
      rcases ends' with rfl | ⟨c', others', rfl, -⟩
      all_goals simp_all

/-- Where a description ends is known from where a part of a summary may end. -/
theorem description_inj
    {text text' rest rest' : Text}
    (undivided : IsUndivided text)
    (undivided' : IsUndivided text')
    (ends : EndsPart rest)
    (ends' : EndsPart rest')
    (same : text ++ rest = text' ++ rest') :
    text = text' := by
  rcases List.append_eq_append_iff.1 same with ⟨more, rfl, rfl⟩ | ⟨more, rfl, rfl⟩
  · rw [eq_nil_of_endsPart undivided' ends ends', List.append_nil]
  · rw [eq_nil_of_endsPart undivided ends' ends, List.append_nil]

/-- The labels of a summary. -/
def summaryLabels : List Text :=
  ["Make: ".toList, "Model: ".toList, "Year: ".toList, "Price: ".toList, "Odometer: ".toList,
    "Location: ".toList, "Color: ".toList, "Condition: ".toList]

theorem map_fst_displays (record : FilterRecord) :
    record.displays.map Prod.fst = summaryLabels := rfl

theorem nodup_summaryLabels : summaryLabels.Nodup := by
  decide

/-- A label begins with a capital letter. -/
theorem exists_capital_of_mem_summaryLabels {label : Text} (known : label ∈ summaryLabels) :
    ∃ c rest, label = c :: rest ∧ c.isUpper = true := by
  have each : ∀ label ∈ summaryLabels, label.head?.any Char.isUpper = true := by decide
  have capital := each label known
  cases label with
  | nil => simp at capital
  | cons c rest => exact ⟨c, rest, rfl, by simpa using capital⟩

/-- No label begins with another. -/
theorem label_eq_of_opens
    {label label' : Text}
    (known : label ∈ summaryLabels)
    (known' : label' ∈ summaryLabels)
    (opens : label <+: label') :
    label = label' := by
  have each : ∀ label ∈ summaryLabels, ∀ label' ∈ summaryLabels,
      label <+: label' → label = label' := by
    decide
  exact each label known label' known' opens

/-- The labels that something is displayed for, with what is displayed. -/
def given (entries : List (Text × Option Text)) : List (Text × Text) :=
  entries.filterMap fun entry => entry.2.map (Prod.mk entry.1)

theorem mem_given {entries : List (Text × Option Text)} {label text : Text} :
    (label, text) ∈ given entries ↔ (label, some text) ∈ entries := by
  simp [given]

/-- The labelled parts of a record's summary. -/
def told (record : FilterRecord) : List (Text × Text) :=
  given record.displays

/-- What is written for a part of a summary. -/
def writePart (part : Text × Text) : Text :=
  summarySeparator ++ (part.1 ++ part.2)

/-- A part has one of the labels, and its text can be told from what may follow. -/
def IsPart (part : Text × Text) : Prop :=
  part.1 ∈ summaryLabels ∧ IsUndivided part.2

theorem summaryParts_eq (record : FilterRecord) :
    record.summaryParts = record.told.map fun part => part.1 ++ part.2 := by
  simp [summaryParts, told, given, List.map_filterMap, Function.comp_def]

/-- A summary is written part by part, but for a separator in front of it. -/
theorem flatMap_told (record : FilterRecord) :
    record.told.flatMap writePart =
      record.summary?.elim [] fun summary => summarySeparator ++ summary.toList := by
  have parts : record.told.flatMap writePart =
      record.summaryParts.flatMap (summarySeparator ++ ·) := by
    rw [summaryParts_eq, List.flatMap_map]
    rfl
  rw [parts, summary?]
  split
  · next nothing => rw [List.isEmpty_iff.1 nothing]; rfl
  · next there =>
      have nonempty : record.summaryParts ≠ [] := by simpa using there
      rw [Option.elim_some, String.toList_ofList, separator_append_intercalate _ nonempty]

theorem endsPart_flatMap {parts : List (Text × Text)} (all : ∀ part ∈ parts, IsPart part) :
    EndsPart (parts.flatMap writePart) := by
  cases parts with
  | nil => exact .inl rfl
  | cons part parts =>
      obtain ⟨known, -⟩ := all part List.mem_cons_self
      obtain ⟨c, rest, label, capital⟩ := exists_capital_of_mem_summaryLabels known
      refine .inr ⟨c, rest ++ (part.2 ++ parts.flatMap writePart), ?_, capital⟩
      simp [writePart, label]

/-- The first part is known from what is written for all parts. -/
theorem part_eq
    {part part' : Text × Text}
    {parts parts' : List (Text × Text)}
    (all : ∀ other ∈ part :: parts, IsPart other)
    (all' : ∀ other ∈ part' :: parts', IsPart other)
    (same : (part :: parts).flatMap writePart = (part' :: parts').flatMap writePart) :
    part = part' := by
  obtain ⟨⟨label, text⟩, ⟨label', text'⟩⟩ := part, part'
  obtain ⟨⟨known, undivided⟩, others⟩ := List.forall_mem_cons.1 all
  obtain ⟨⟨known', undivided'⟩, others'⟩ := List.forall_mem_cons.1 all'
  simp only [List.flatMap_cons, writePart, List.append_assoc, List.append_cancel_left_eq] at same
  have labels : label = label' := by
    have opens : label <+: label' ++ (text' ++ parts'.flatMap writePart) := ⟨_, same⟩
    rcases List.prefix_or_prefix_of_prefix opens (List.prefix_append _ _) with first | second
    · exact label_eq_of_opens known known' first
    · exact (label_eq_of_opens known' known second).symm
  subst labels
  have texts := description_inj undivided undivided' (endsPart_flatMap others)
    (endsPart_flatMap others') (List.append_cancel_left same)
  exact congrArg (Prod.mk label) texts

/-- The descriptions of a record can be told from what follows them in a summary. -/
structure IsTellable (record : FilterRecord) : Prop where
  /-- The make can. -/
  make : ∀ make ∈ record.make, IsUndivided make.toList
  /-- The model can. -/
  model : ∀ model ∈ record.model, IsUndivided model.toList
  /-- The place can. -/
  location : ∀ location ∈ record.location, IsUndivided location.toList
  /-- The color can. -/
  color : ∀ color ∈ record.color, IsUndivided color.toList

theorem isUndivided_description
    {description : Option String}
    {text : Text}
    (undivided : ∀ value ∈ description, IsUndivided value.toList)
    (shown : description.map String.toList = some text) :
    IsUndivided text := by
  obtain ⟨value, there, rfl⟩ := Option.map_eq_some_iff.1 shown
  exact undivided value there

theorem isUndivided_conditionText?
    {record : FilterRecord}
    {text : Text}
    (shown : record.conditionText? ", ".toList = some text) :
    IsUndivided text := by
  have labels : ∀ condition : Condition, '·' ∉ condition.label.toList := by
    intro condition
    cases condition <;> decide
  rw [conditionText?] at shown
  split at shown
  · simp at shown
  · obtain rfl := Option.some.inj shown
    apply isUndivided_of_not_mem
    intro member
    rcases mem_intercalate member with between | ⟨_, known, inside⟩
    · exact absurd between (by decide)
    · obtain ⟨condition, -, rfl⟩ := List.mem_map.1 known
      exact labels condition inside

/-- What is displayed can be told from what follows it. -/
theorem IsTellable.isUndivided
    {record : FilterRecord}
    (tellable : record.IsTellable)
    {label text : Text}
    (displayed : (label, some text) ∈ record.displays) :
    IsUndivided text := by
  have range {α : Type} [DecidableEq α] {display : α → Text} (plain : IsPlain display)
      {bounds : Bounds α} (shown : bounds.describe? display = some text) : IsUndivided text :=
    isUndivided_of_not_mem (plain.not_mem_describe? (by decide) shown)
  simp only [displays, List.mem_cons, List.not_mem_nil, or_false, Prod.mk.injEq] at displayed
  rcases displayed with ⟨-, shown⟩ | ⟨-, shown⟩ | ⟨-, shown⟩ | ⟨-, shown⟩ | ⟨-, shown⟩ |
    ⟨-, shown⟩ | ⟨-, shown⟩ | ⟨-, shown⟩
  · exact isUndivided_description tellable.make shown.symm
  · exact isUndivided_description tellable.model shown.symm
  · exact range isPlain_displayYear shown.symm
  · exact range isPlain_displayPrice shown.symm
  · exact range isPlain_displayDistance shown.symm
  · exact isUndivided_description tellable.location shown.symm
  · exact isUndivided_description tellable.color shown.symm
  · exact isUndivided_conditionText? shown.symm

theorem IsTellable.isPart
    {record : FilterRecord}
    (tellable : record.IsTellable)
    {part : Text × Text}
    (member : part ∈ record.told) :
    IsPart part := by
  have displayed := mem_given.1 member
  refine ⟨?_, tellable.isUndivided displayed⟩
  rw [← map_fst_displays record]
  exact List.mem_map_of_mem displayed

/-- Entries with the same labels are known from what is given, if no label comes twice. -/
theorem eq_of_given_eq
    {entries entries' : List (Text × Option Text)}
    (labels : entries.map Prod.fst = entries'.map Prod.fst)
    (distinct : (entries.map Prod.fst).Nodup)
    (same : given entries = given entries') :
    entries = entries' := by
  have absent {label text : Text} {others : List (Text × Option Text)}
      (new : label ∉ others.map Prod.fst) : (label, text) ∉ given others := fun member =>
    new (List.mem_map_of_mem (mem_given.1 member))
  induction entries generalizing entries' with
  | nil => exact (List.map_eq_nil_iff.1 labels.symm).symm
  | cons entry entries ih =>
      cases entries' with
      | nil => simp at labels
      | cons entry' entries' =>
          obtain ⟨⟨label, shown⟩, ⟨label', shown'⟩⟩ := entry, entry'
          obtain ⟨rfl, later⟩ : label = label' ∧ entries.map Prod.fst = entries'.map Prod.fst :=
            List.cons.inj labels
          obtain ⟨new, apart⟩ := List.nodup_cons.1 distinct
          have new' : label ∉ entries'.map Prod.fst := later ▸ new
          cases shown <;> cases shown'
          case none.none => rw [ih later apart same]
          case some.some text text' =>
              obtain ⟨first, others⟩ := List.cons.inj same
              rw [ih later apart others, (Prod.mk.inj first).2]
          case none.some text' =>
              have member : (label, text') ∈ given entries := same ▸ List.mem_cons_self
              exact absurd member (absent new)
          case some.none text =>
              have member : (label, text) ∈ given entries' := same ▸ List.mem_cons_self
              exact absurd member (absent new')

/-- The labels of conditions differ in their first letters. -/
theorem condition_eq_of_head?
    {condition condition' : Condition}
    (same : condition.label.toList.head? = condition'.label.toList.head?) :
    condition = condition' := by
  revert same
  cases condition <;> cases condition' <;> decide

/-- What is written for one of several conditions. -/
def writeCondition (condition : Condition) : Text :=
  ", ".toList ++ condition.label.toList

/-- Conditions are written one by one, but for a separator in front of them. -/
theorem flatMap_condition (record : FilterRecord) :
    record.condition.flatMap writeCondition =
      (record.conditionText? ", ".toList).elim [] (", ".toList ++ ·) := by
  rw [conditionText?]
  split
  · next nothing => rw [List.isEmpty_iff.1 nothing]; rfl
  · next there =>
      have nonempty : record.condition.map (fun condition => condition.label.toList) ≠ [] := by
        simpa using there
      rw [Option.elim_some, conditionLabels, separator_append_intercalate _ nonempty,
        List.flatMap_map]
      rfl

section Pairs

variable {first second : FilterRecord}

/-- Conditions are known from their labels, whose first letters differ. -/
theorem condition_eq_of_labels
    (same : first.conditionText? ", ".toList = second.conditionText? ", ".toList) :
    first.condition = second.condition := by
  have visible : ∀ condition, writeCondition condition ≠ [] := by
    intro condition
    simp [writeCondition]
  refine eq_of_flatMap_eq (fun _ => True) visible ?_ (by simp) (by simp) ?_
  · intro condition condition' _ _ _ _ written
    simp only [List.flatMap_cons, writeCondition, List.append_assoc,
      List.append_cancel_left_eq] at written
    have there : ∀ condition : Condition, condition.label.toList ≠ [] := by
      intro condition
      cases condition <;> decide
    have letters := congrArg List.head? written
    rw [List.head?_append_of_ne_nil _ (there condition),
      List.head?_append_of_ne_nil _ (there condition')] at letters
    exact condition_eq_of_head? letters
  · rw [flatMap_condition, same, ← flatMap_condition]

/-- The parts of a summary are known from it. -/
theorem told_eq_of_summary?
    (tellable : first.IsTellable)
    (tellable' : second.IsTellable)
    (same : first.summary? = second.summary?) :
    first.told = second.told := by
  have visible : ∀ part, writePart part ≠ [] := by
    intro part
    simp [writePart, summarySeparator]
  apply eq_of_flatMap_eq IsPart visible part_eq (fun _ => tellable.isPart)
    (fun _ => tellable'.isPart)
  rw [flatMap_told, same, ← flatMap_told]

/-- What is displayed for each label is known from the parts of the summary. -/
theorem displays_eq_of_told (same : first.told = second.told) :
    first.displays = second.displays :=
  eq_of_given_eq rfl nodup_summaryLabels same

/-- The record is known from what is displayed, but for its keywords and its category. -/
theorem eq_of_displays (same : first.displays = second.displays) :
    { first with category := none, query := "" } =
      { second with category := none, query := "" } := by
  simp only [displays, List.cons.injEq, Prod.mk.injEq, true_and, and_true] at same
  obtain ⟨make, model, year, price, odometer, location, color, condition⟩ := same
  rw [FilterRecord.mk.injEq]
  exact ⟨description_eq_of_toList make, description_eq_of_toList model,
    isPlain_displayYear.describe?_injective year, isPlain_displayPrice.describe?_injective price,
    isPlain_displayDistance.describe?_injective odometer, description_eq_of_toList location,
    description_eq_of_toList color, condition_eq_of_labels condition, rfl, rfl⟩

/-- The keywords and the category have no part in a summary. -/
theorem summary?_eq_of_rest (record : FilterRecord) :
    { record with category := none, query := "" }.summary? = record.summary? :=
  rfl

/-- Records whose descriptions can be told from what follows them have the same summary exactly if
they agree on everything but the keywords and the category. -/
theorem summary?_eq_iff (tellable : first.IsTellable) (tellable' : second.IsTellable) :
    first.summary? = second.summary? ↔
      { first with category := none, query := "" } =
        { second with category := none, query := "" } := by
  constructor
  · intro same
    exact eq_of_displays (displays_eq_of_told (told_eq_of_summary? tellable tellable' same))
  · intro agree
    rw [← summary?_eq_of_rest, agree, summary?_eq_of_rest]

end Pairs

end FilterRecord
end SearchPhrase
