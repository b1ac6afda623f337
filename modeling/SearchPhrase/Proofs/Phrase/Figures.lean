import SearchPhrase.Proofs.Phrase.Claims
import SearchPhrase.Proofs.Text.Stretch

/-!
# The form of years and distances

An occurrence of a year ends in the year, with nothing, a leading word, or a first year before it.
An occurrence of a distance is a number with words of distance and limit around it.
-/

namespace SearchPhrase

namespace Text

open Cursor Unicode

/-- Whether a text begins with a digit. -/
def startsWithDigit : Text → Bool
  | [] => false
  | c :: _ => isWordDigit c

theorem startsWithDigit_append
    {first : Text}
    (nonempty : first ≠ [])
    (second : Text) :
    startsWithDigit (first ++ second) = startsWithDigit first := by
  cases first with
  | nil => exact absurd rfl nonempty
  | cons c rest => rfl

theorem startsWithWord_of_startsWithDigit
    {text : Text}
    (digit : startsWithDigit text = true) :
    startsWithWord text = true := by
  cases text with
  | nil => exact digit
  | cons c rest => exact isWord_of_isWordDigit digit

theorem startsWithDigit_eq_false
    {text : Text}
    (notWord : startsWithWord text = false) :
    startsWithDigit text = false := by
  rw [← Bool.not_eq_true]
  intro digit
  rw [startsWithWord_of_startsWithDigit digit] at notWord
  cases notWord

/-- What holds no digit begins with none. -/
theorem startsWithDigit_append_of_free
    {first : Text}
    (nonempty : first ≠ [])
    (free : ∀ c ∈ first, isWordDigit c = false)
    (second : Text) :
    startsWithDigit (first ++ second) = false := by
  obtain ⟨c, rest, rfl⟩ := List.exists_cons_of_ne_nil nonempty
  exact free c List.mem_cons_self

/-- Nor does it end with one. -/
theorem startsWithDigit_reverse_append_of_free
    {second : Text}
    (nonempty : second ≠ [])
    (free : ∀ c ∈ second, isWordDigit c = false)
    (first : Text) :
    startsWithDigit (first ++ second).reverse = false := by
  rw [List.reverse_append]
  refine startsWithDigit_append_of_free (by simpa using nonempty) ?_ _
  intro c member
  exact free c (List.mem_reverse.1 member)

theorem isWordDigit_of_isBlank
    {gap : Text}
    {c : Char}
    (blank : isBlank gap = true)
    (member : c ∈ gap) :
    isWordDigit c = false :=
  isWordDigit_of_isWhiteSpace (isBlank_iff.1 blank c member)

/-- What begins with a digit lies past what holds none. -/
theorem exists_past_of_startsWithDigit
    {front rest head tail : Text}
    (digit : startsWithDigit tail = true)
    (free : ∀ c ∈ front, isWordDigit c = false)
    (same : head ++ tail = front ++ rest) :
    ∃ part, head = front ++ part ∧ part ++ tail = rest := by
  cases tail with
  | nil => cases digit
  | cons d tail =>
      have isDigit : isWordDigit d = true := digit
      have absent : d ∉ front := by
        intro member
        simp [free d member] at isDigit
      obtain ⟨part, before, later⟩ := exists_of_append_cons absent same.symm
      exact ⟨part, before, later.symm⟩

/-- Whether each name of a list is a single word that does not begin with a digit. -/
def areWords (names : List String) : Bool :=
  names.all fun name =>
    !name.toList.isEmpty && name.toList.all isWord && !startsWithDigit name.toList

section Words

variable {names : List String} {name : String}

theorem of_areWords
    (words : areWords names = true)
    (known : name ∈ names) :
    name.toList ≠ [] ∧ (∀ c ∈ name.toList, isWord c = true) ∧
      startsWithDigit name.toList = false := by
  have checked := List.all_eq_true.1 words name known
  simp only [Bool.and_eq_true, Bool.not_eq_true', List.isEmpty_eq_false_iff] at checked
  obtain ⟨⟨nonempty, solid⟩, letter⟩ := checked
  exact ⟨nonempty, List.all_eq_true.1 solid, letter⟩

theorem startsWithDigit_name_append
    (words : areWords names = true)
    (known : name ∈ names)
    (rest : Text) :
    startsWithDigit (name.toList ++ rest) = false := by
  obtain ⟨nonempty, -, letter⟩ := of_areWords words known
  rwa [startsWithDigit_append nonempty]

theorem startsWithWord_name_append
    (words : areWords names = true)
    (known : name ∈ names)
    (rest : Text) :
    startsWithWord (name.toList ++ rest) = true := by
  obtain ⟨nonempty, solid, -⟩ := of_areWords words known
  rw [startsWithWord_append nonempty]
  cases shape : name.toList with
  | nil => exact absurd shape nonempty
  | cons c others => exact solid c (by simp [shape])

end Words

/-- Whether no name of one list begins like a name of another. -/
def beginApart (names others : List String) : Bool :=
  names.all fun name => others.all fun other =>
    !name.toList.isPrefixOf other.toList && !other.toList.isPrefixOf name.toList

theorem append_ne_append_of_beginApart
    {names others : List String}
    {name other : String}
    (apart : beginApart names others = true)
    (known : name ∈ names)
    (known' : other ∈ others)
    (rest rest' : Text) :
    name.toList ++ rest ≠ other.toList ++ rest' := by
  have checked := List.all_eq_true.1 (List.all_eq_true.1 apart name known) other known'
  rw [Bool.and_eq_true, Bool.not_eq_true', Bool.not_eq_true'] at checked
  intro same
  have either := List.prefix_or_prefix_of_prefix (List.prefix_append name.toList rest)
    (same ▸ List.prefix_append other.toList rest')
  rw [← List.isPrefixOf_iff_prefix, ← List.isPrefixOf_iff_prefix, checked.1, checked.2] at either
  rcases either with shorter | shorter <;> cases shorter

/-- The edge of a word at which a word begins does not continue a word. -/
theorem startsWithWord_eq_false_of_atBoundary
    {before after : Text}
    (edge : atBoundary ⟨before, after⟩ = true)
    (starts : startsWithWord after = true) :
    startsWithWord before = false := by
  simpa [atBoundary, starts] using edge

/-- The edge of a word at which a word ends is not continued by a word. -/
theorem startsWithWord_eq_false_of_atBoundary'
    {before after : Text}
    (edge : atBoundary ⟨before, after⟩ = true)
    (ends : startsWithWord before = true) :
    startsWithWord after = false := by
  simpa [atBoundary, ends] using edge

/-- No word goes on after an edge at which a text ends in a whole word. -/
theorem startsWithWord_eq_false_of_solid
    {before front word after : Text}
    (edge : atBoundary ⟨(front ++ word).reverse ++ before, after⟩ = true)
    (nonempty : word ≠ [])
    (solid : ∀ c ∈ word, isWord c = true) :
    startsWithWord after = false := by
  apply startsWithWord_eq_false_of_atBoundary' edge
  obtain ⟨rest, c, rfl⟩ := (List.eq_nil_or_concat word).resolve_left nonempty
  simpa [startsWithWord] using solid c (by simp)

/-- A whole word that a text ends in is at the edge of a word if no word goes on after it. -/
theorem atBoundary_of_solid
    {before front word after : Text}
    (nonempty : word ≠ [])
    (solid : ∀ c ∈ word, isWord c = true)
    (ended : startsWithWord after = false) :
    atBoundary ⟨(front ++ word).reverse ++ before, after⟩ = true := by
  obtain ⟨rest, c, rfl⟩ := (List.eq_nil_or_concat word).resolve_left nonempty
  have ends : startsWithWord ((front ++ rest.concat c).reverse ++ before) = true := by
    simpa [startsWithWord] using solid c (by simp)
  rw [atBoundary, ends, ended]
  rfl

/-- Whether there is an edge of a word between two texts depends on nothing beyond them. -/
theorem atBoundary_append
    {first second : Text}
    (nonempty : first ≠ [])
    (nonempty' : second ≠ [])
    (before after : Text) :
    atBoundary ⟨first ++ before, second ++ after⟩ = atBoundary ⟨first, second⟩ := by
  rw [atBoundary, atBoundary, startsWithWord_append nonempty, startsWithWord_append nonempty']

/-- Where no word begins, there is an edge of a word exactly after a word. -/
theorem atBoundary_of_ended
    {before after : Text}
    (ended : startsWithWord after = false) :
    atBoundary ⟨before, after⟩ = startsWithWord before := by
  rw [atBoundary, ended]
  cases startsWithWord before <;> rfl

end Text

namespace Figure

open Pattern Text Unicode

/-- The first letters of the units of distance. -/
theorem exists_head_of_mem_distanceWords
    {unit : String}
    (known : unit ∈ distanceWords) :
    ∃ c ∈ ['k', 'm', 'o'], ∃ rest, unit.toList = c :: rest := by
  have letters : ∀ unit ∈ distanceWords,
      ['k', 'm', 'o'].any (fun c => unit.toList.head? == some c) = true := by
    decide
  obtain ⟨c, letter, first⟩ := List.any_eq_true.1 (letters unit known)
  obtain ⟨rest, shape⟩ := List.head?_eq_some_iff.1 (beq_iff_eq.1 first)
  exact ⟨c, letter, rest, shape⟩

/-! ## Numbers -/

/-- A digit, further digits and commas, and perhaps a point with digits after it. -/
def IsNumber (text : Text) : Prop :=
  ∃ (first : Char) (whole fraction : Text), text = first :: (whole ++ fraction) ∧
    isWordDigit first = true ∧ (∀ c ∈ whole, isWordDigit c = true ∨ c = ',') ∧
      (fraction = [] ∨ ∃ digits, fraction = '.' :: digits ∧ digits ≠ [] ∧
        ∀ c ∈ digits, isWordDigit c = true)

theorem isNumber_of_takes
    {slot : Slot}
    {before text after : Text}
    (takes : (number slot).Takes before text after) :
    IsNumber text := by
  obtain ⟨_, fraction, rfl, ⟨_, whole, rfl, ⟨first, rfl, digit⟩, rest⟩, point⟩ := takes
  refine ⟨first, whole, fraction, rfl, digit, ?_, ?_⟩
  · intro c member
    have accepted := rest c member
    rw [CharClass.accepts, Bool.or_eq_true] at accepted
    rcases accepted with digit | comma
    · exact .inl digit
    · exact .inr (beq_iff_eq.1 comma).symm
  · rcases takes_opt.1 point with ⟨mark, digits, rfl, same, others⟩ | rfl
    · obtain rfl := takes_only.1 same
      obtain ⟨nonempty, accepted⟩ := takes_run1.1 others
      exact .inr ⟨digits, rfl, nonempty, accepted⟩
    · exact .inl rfl

/-- A number is what its pattern takes. -/
theorem takes_number
    {slot : Slot}
    {before text after : Text} :
    (number slot).Takes before text after ↔ IsNumber text := by
  refine ⟨isNumber_of_takes, ?_⟩
  rintro ⟨first, whole, fraction, rfl, digit, rest, point⟩
  refine ⟨first :: whole, fraction, rfl, ⟨[first], whole, rfl, ⟨first, rfl, digit⟩, ?_⟩, ?_⟩
  · intro c member
    rw [CharClass.accepts, Bool.or_eq_true]
    rcases rest c member with digit | rfl
    · exact .inl digit
    · exact .inr (beq_self_eq_true _)
  · rcases point with rfl | ⟨digits, rfl, nonempty, all⟩
    · exact .inr rfl
    · exact .inl ⟨['.'], digits, rfl, takes_only.2 rfl, takes_run1.2 ⟨nonempty, all⟩⟩

theorem IsNumber.startsWithDigit
    {text : Text}
    (isNumber : IsNumber text)
    (rest : Text) :
    Text.startsWithDigit (text ++ rest) = true := by
  obtain ⟨first, whole, fraction, rfl, digit, -⟩ := isNumber
  exact digit

theorem IsNumber.ne_nil {text : Text} (isNumber : IsNumber text) : text ≠ [] := by
  obtain ⟨first, whole, fraction, rfl, -⟩ := isNumber
  exact List.cons_ne_nil _ _

theorem IsNumber.mem
    {text : Text}
    {c : Char}
    (isNumber : IsNumber text)
    (member : c ∈ text) :
    isWordDigit c = true ∨ c = ',' ∨ c = '.' := by
  obtain ⟨first, whole, fraction, rfl, digit, rest, point⟩ := isNumber
  rcases List.mem_cons.1 member with rfl | member
  · exact .inl digit
  rcases List.mem_append.1 member with member | member
  · rcases rest c member with digit | comma
    · exact .inl digit
    · exact .inr (.inl comma)
  · rcases point with rfl | ⟨digits, rfl, -, all⟩
    · exact absurd member List.not_mem_nil
    · rcases List.mem_cons.1 member with point | member
      · exact .inr (.inr point)
      · exact .inl (all c member)

theorem IsNumber.isWhiteSpace
    {text : Text}
    {c : Char}
    (isNumber : IsNumber text)
    (member : c ∈ text) :
    isWhiteSpace c = false := by
  rcases isNumber.mem member with digit | rfl | rfl
  · apply Bool.eq_false_iff.2
    intro space
    have inWord := isWord_of_isWordDigit digit
    simp [isWord_of_isWhiteSpace space] at inWord
  · decide
  · decide

/-- Whether a character may be a part of a number. -/
def inNumber (c : Char) : Bool :=
  isWordDigit c || c == ',' || c == '.'

theorem inNumber_of_mem
    {digits : Text}
    {c : Char}
    (isNumber : IsNumber digits)
    (member : c ∈ digits) :
    inNumber c = true := by
  rcases isNumber.mem member with digit | rfl | rfl
  · simp [inNumber, digit]
  · decide
  · decide

theorem inNumber_of_isWhiteSpace {c : Char} (space : isWhiteSpace c = true) :
    inNumber c = false := by
  have apart : c ≠ ',' ∧ c ≠ '.' := by
    constructor <;> rintro rfl <;> exact absurd space (by decide)
  simp [inNumber, isWordDigit_of_isWhiteSpace space, apart]

/-- What is no letter, number, point or comma is no part of a number. -/
theorem inNumber_of_apart
    {c : Char}
    (apart : (isAlphanumeric c || c == '.' || c == ',') = false) :
    inNumber c = false := by
  simp only [isAlphanumeric, isWordDigit, inNumber, Bool.or_eq_false_iff] at apart ⊢
  simp [apart]

/-- A part of a number that begins with a word begins with a digit. -/
theorem IsNumber.startsWithDigit_of_startsWithWord
    {front part : Text}
    (isNumber : IsNumber (front ++ part))
    (starts : Cursor.startsWithWord part = true) :
    Text.startsWithDigit part = true := by
  cases part with
  | nil => exact starts
  | cons c rest =>
      have apart : isWord ',' = false ∧ isWord '.' = false := by decide
      have inWord : isWord c = true := starts
      rcases isNumber.mem (by simp : c ∈ front ++ c :: rest) with digit | rfl | rfl
      · exact digit
      · simp [apart] at inWord
      · simp [apart] at inWord

/-- A word that begins with no digit begins past the number before it. -/
theorem IsNumber.exists_past
    {number before word rest : Text}
    (isNumber : IsNumber number)
    (starts : Cursor.startsWithWord word = true)
    (notDigit : Text.startsWithDigit word = false)
    (whole : before ++ word = number ++ rest) :
    ∃ part, before = number ++ part ∧ part ++ word = rest := by
  rcases List.append_eq_append_iff.1 whole with ⟨part, cut, after⟩ | ⟨part, cut, after⟩
  · cases part with
    | nil => exact ⟨[], by simpa using cut.symm, by simpa using after⟩
    | cons c part =>
        have nonempty := List.cons_ne_nil c part
        rw [after, startsWithWord_append nonempty] at starts
        rw [after, startsWithDigit_append nonempty] at notDigit
        have digit := (cut ▸ isNumber).startsWithDigit_of_startsWithWord starts
        rw [notDigit] at digit
        cases digit
  · exact ⟨part, cut, after.symm⟩

end Figure

/-! ## Years -/

namespace Years

open Pattern Figure Text Unicode

/-- Four digits of which the first two name the twentieth or twenty-first century. -/
def IsYear (text : Text) : Prop :=
  ∃ century ∈ ["19", "20"], ∃ c d : Char, text = century.toList ++ [c, d] ∧
    isWordDigit c = true ∧ isWordDigit d = true

theorem isYear_of_takes
    {slot : Slot}
    {before text after : Text}
    (takes : (year slot).Takes before text after) :
    IsYear text := by
  obtain ⟨_, _, rfl, ⟨_, _, rfl, start, c, rfl, digit⟩, d, rfl, last⟩ := takes
  obtain ⟨century, known, rfl⟩ := takes_oneOf.1 start
  exact ⟨century, known, c, d, by simp, digit, last⟩

/-- A year is what its pattern takes. -/
theorem takes_year
    {slot : Slot}
    {before text after : Text} :
    (year slot).Takes before text after ↔ IsYear text := by
  refine ⟨isYear_of_takes, ?_⟩
  rintro ⟨century, known, c, d, rfl, digit, last⟩
  refine ⟨century.toList ++ [c], [d], by simp, ?_, d, rfl, last⟩
  exact ⟨_, [c], rfl, takes_oneOf.2 ⟨century, known, rfl⟩, c, rfl, digit⟩

/-- A year is a number. -/
theorem IsYear.isNumber {text : Text} (isYear : IsYear text) : IsNumber text := by
  obtain ⟨century, known, c, d, rfl, digit, last⟩ := isYear
  have forms : ∀ century ∈ ["19", "20"], ∃ first second : Char, century.toList = [first, second] ∧
      isWordDigit first = true ∧ isWordDigit second = true := by
    intro century known
    simp only [List.mem_cons, List.not_mem_nil, or_false] at known
    rcases known with rfl | rfl
    · exact ⟨'1', '9', rfl, by decide, by decide⟩
    · exact ⟨'2', '0', rfl, by decide, by decide⟩
  obtain ⟨first, second, form, firstDigit, secondDigit⟩ := forms century known
  refine ⟨first, [second, c, d], [], by simp [form], firstDigit, ?_, .inl rfl⟩
  simp [secondDigit, digit, last]

theorem IsYear.isWordDigit
    {text : Text}
    {c : Char}
    (isYear : IsYear text)
    (member : c ∈ text) :
    isWordDigit c = true := by
  obtain ⟨century, known, first, second, rfl, firstDigit, secondDigit⟩ := isYear
  have digits : ∀ century ∈ ["19", "20"], century.toList.all Unicode.isWordDigit = true := by
    decide
  rcases List.mem_append.1 member with member | member
  · exact List.all_eq_true.1 (digits century known) c member
  · rcases List.mem_cons.1 member with rfl | member
    · exact firstDigit
    · rwa [List.mem_singleton.1 member]

theorem IsYear.ne_nil {text : Text} (isYear : IsYear text) : text ≠ [] := by
  obtain ⟨century, known, c, d, rfl, -⟩ := isYear
  simp

theorem IsYear.startsWithDigit
    {text : Text}
    (isYear : IsYear text)
    (rest : Text) :
    Text.startsWithDigit (text ++ rest) = true := by
  rw [startsWithDigit_append isYear.ne_nil]
  cases shape : text with
  | nil => exact absurd shape isYear.ne_nil
  | cons c others => exact isYear.isWordDigit (by simp [shape])

theorem IsYear.startsWithWord {text : Text} (isYear : IsYear text) :
    Cursor.startsWithWord text = true := by
  apply startsWithWord_of_startsWithDigit
  simpa using isYear.startsWithDigit []

theorem IsYear.isWord
    {text : Text}
    (isYear : IsYear text) :
    ∀ c ∈ text, isWord c = true := by
  intro c member
  exact isWord_of_isWordDigit (isYear.isWordDigit member)

/-- The words after which a year is one end of a range. -/
def leadWords : List String :=
  ["after", "since", "from", "before", "until"]

/-- The words within a claim for years. -/
def claimWords : List String :=
  "to" :: leadWords

theorem areWords_claimWords : areWords claimWords = true := by
  decide

theorem mem_claimWords {word : String} (known : word ∈ leadWords) : word ∈ claimWords :=
  List.mem_cons_of_mem _ known

/-- What may stand before the year that ends an occurrence. -/
inductive Lead : Text → Prop where
  /-- Nothing stands before it. -/
  | nothing : Lead []
  /-- A leading word and white space stand before it. -/
  | word {word : String} {gap : Text} (known : word ∈ leadWords) (blank : isBlank gap = true) :
      Lead (word.toList ++ gap)
  /-- Another year and what marks a range stand before it. -/
  | range {first gap mark gap' : Text} (isYear : IsYear first) (blank : isBlank gap = true)
      (known : mark = ['-'] ∨ mark = ['t', 'o']) (blank' : isBlank gap' = true) :
      Lead (first ++ (gap ++ (mark ++ gap')))

/-- A year is a whole word where its last digit is at the edge of a word. -/
theorem IsYear.startsWithWord_after
    {before lead digits after : Text}
    (isYear : IsYear digits)
    (closes : Cursor.atBoundary ⟨(lead ++ digits).reverse ++ before, after⟩ = true) :
    Cursor.startsWithWord after = false :=
  startsWithWord_eq_false_of_solid closes isYear.ne_nil isYear.isWord

/-- A leading word before a year, whichever words may lead. -/
theorem lead_of_takes_word
    {words : List String}
    {before text after : Text}
    (known : ∀ word ∈ words, word ∈ leadWords)
    (takes : (oneOf words ++ blank).Takes before text after) :
    Lead text := by
  obtain ⟨_, gap, rfl, oneOf, isGap⟩ := takes
  obtain ⟨word, member, rfl⟩ := takes_oneOf.1 oneOf
  exact .word (known word member) (takes_blank.1 isGap).2

theorem lead_of_takes_range
    {slot : Slot}
    {before text after : Text}
    (takes : (year slot ++ rangeMark).Takes before text after) :
    Lead text := by
  obtain ⟨first, _, rfl, isYear, _, gap', rfl, ⟨gap, _, rfl, isGap, oneOf⟩, isGap'⟩ := takes
  obtain ⟨mark, member, rfl⟩ := takes_oneOf.1 oneOf
  rw [List.append_assoc]
  refine .range (isYear_of_takes isYear) (takes_gap.1 isGap) ?_ (takes_gap.1 isGap')
  rcases List.mem_cons.1 member with rfl | member
  · exact .inl rfl
  · rw [List.mem_singleton.1 member]
    exact .inr rfl

theorem startsWithWord_lead
    {lead digits : Text}
    (shape : Lead lead)
    (isYear : IsYear digits)
    (after : Text) :
    Cursor.startsWithWord (lead ++ digits ++ after) = true := by
  cases shape with
  | nothing => exact startsWithWord_of_startsWithDigit (isYear.startsWithDigit after)
  | word known blank =>
      rw [List.append_assoc, List.append_assoc]
      exact startsWithWord_name_append areWords_claimWords (mem_claimWords known) _
  | range first blank known blank' =>
      rw [List.append_assoc, List.append_assoc]
      exact startsWithWord_of_startsWithDigit (first.startsWithDigit _)

/-- Where a year between edges of words follows something that may lead, the form is right. -/
theorem exists_lead_of_takes_bounded
    {leading : Pattern}
    {slot : Slot}
    {before text after : Text}
    (leads : ∀ {before text after : Text}, leading.Takes before text after → Lead text)
    (takes : (bounded (leading ++ year slot)).Takes before text after) :
    ∃ lead digits, text = lead ++ digits ∧ Lead lead ∧ IsYear digits ∧
      Cursor.startsWithWord before = false ∧ Cursor.startsWithWord after = false := by
  obtain ⟨opens, ⟨lead, digits, rfl, first, last⟩, closes⟩ := takes_bounded.1 takes
  have shape := leads first
  have isYear := isYear_of_takes last
  refine ⟨lead, digits, rfl, shape, isYear, ?_, isYear.startsWithWord_after closes⟩
  exact startsWithWord_eq_false_of_atBoundary opens (startsWithWord_lead shape isYear after)

/-- What is claimed for years ends in a year, after nothing, a leading word or a first year. -/
theorem exists_lead_of_takes
    {pattern : Pattern}
    {before text after : Text}
    (known : pattern ∈ patterns)
    (takes : pattern.Takes before text after) :
    ∃ lead digits, text = lead ++ digits ∧ Lead lead ∧ IsYear digits ∧
      Cursor.startsWithWord before = false ∧ Cursor.startsWithWord after = false := by
  simp only [patterns, List.mem_cons, List.not_mem_nil, or_false] at known
  rcases known with rfl | rfl | rfl | rfl
  · exact exists_lead_of_takes_bounded (lead_of_takes_word (by decide)) takes
  · exact exists_lead_of_takes_bounded (lead_of_takes_word (by decide)) takes
  · exact exists_lead_of_takes_bounded lead_of_takes_range takes
  · obtain ⟨opens, last, closes⟩ := takes_bounded.1 takes
    have isYear := isYear_of_takes last
    have closes : Cursor.atBoundary ⟨([] ++ text).reverse ++ before, after⟩ = true := closes
    refine ⟨[], text, rfl, .nothing, isYear, ?_, isYear.startsWithWord_after closes⟩
    exact startsWithWord_eq_false_of_atBoundary opens (startsWithWord_lead .nothing isYear after)

end Years

/-! ## Distances -/

namespace Mileage

open Pattern Figure Text Unicode

/-- The words that stand around the number of a distance. -/
def companions : List String :=
  ["under", "below", "less", "than", "over", "above", "more", "or", "k"] ++ distanceWords

/-- The words that a limit begins with. -/
def limitWords : List String :=
  ["under", "below", "less", "over", "above", "more"]

theorem areWords_companions : areWords companions = true := by
  decide

theorem mem_companions {word : String} (known : word ∈ limitWords) : word ∈ companions := by
  have subset : ∀ word ∈ limitWords, word ∈ companions := by decide
  exact subset word known

/-- A word that stands around the number of a distance. -/
def IsCompanion (word : Text) : Prop :=
  ∃ name ∈ companions, word = name.toList

theorem IsCompanion.isWord
    {word : Text}
    (companion : IsCompanion word) :
    ∀ c ∈ word, isWord c = true := by
  obtain ⟨name, known, rfl⟩ := companion
  exact (of_areWords areWords_companions known).2.1

/-- The limit that stands before the number of a distance. -/
structure IsLimit (text : Text) : Prop where
  /-- It is made of companions. -/
  phrased : Phrased IsCompanion text
  /-- It begins with a word of limit. -/
  begins : ∃ word ∈ limitWords, ∃ rest, text = word.toList ++ rest

theorem IsLimit.append
    {limit rest : Text}
    (isLimit : IsLimit limit)
    (phrased : Phrased IsCompanion rest) :
    IsLimit (limit ++ rest) := by
  refine ⟨isLimit.phrased.append phrased, ?_⟩
  obtain ⟨word, known, others, rfl⟩ := isLimit.begins
  exact ⟨word, known, others ++ rest, List.append_assoc _ _ _⟩

/-- What stands before and after the number of a distance. -/
structure Surrounds (opening closing : Text) : Prop where
  /-- Before the number stands nothing or a limit. -/
  before : opening = [] ∨ IsLimit opening
  /-- Nothing else than companions stands after the number. -/
  after : Phrased IsCompanion closing
  /-- The first of them is a scale letter or a unit. -/
  follows : ∃ gap c rest, closing = gap ++ c :: rest ∧ isBlank gap = true ∧
    c ∈ ['k', 'm', 'o']

theorem Surrounds.phrased
    {opening closing : Text}
    (surrounds : Surrounds opening closing) :
    Phrased IsCompanion opening := by
  rcases surrounds.before with rfl | isLimit
  · exact .nil
  · exact isLimit.phrased

theorem phrased_of_takes_literal
    {word : String}
    {before text after : Text}
    (known : word ∈ companions)
    (takes : (literal word).Takes before text after) :
    Phrased IsCompanion text :=
  .of_word ⟨word, known, takes_literal.1 takes⟩

theorem phrased_of_takes_oneOf
    {words : List String}
    {before text after : Text}
    (known : ∀ word ∈ words, word ∈ companions)
    (takes : (oneOf words).Takes before text after) :
    Phrased IsCompanion text := by
  obtain ⟨word, member, rfl⟩ := takes_oneOf.1 takes
  exact .of_word ⟨word, known word member, rfl⟩

theorem phrased_of_takes_gap
    {before text after : Text}
    (takes : gap.Takes before text after) :
    Phrased IsCompanion text :=
  .of_isBlank (takes_gap.1 takes)

theorem phrased_of_takes_blank
    {before text after : Text}
    (takes : blank.Takes before text after) :
    Phrased IsCompanion text :=
  .of_isBlank (takes_blank.1 takes).2

theorem isLimit_of_takes_literal
    {word : String}
    {before text after : Text}
    (known : word ∈ limitWords)
    (takes : (literal word).Takes before text after) :
    IsLimit text := by
  refine ⟨phrased_of_takes_literal (mem_companions known) takes, word, known, [], ?_⟩
  rw [takes_literal.1 takes, List.append_nil]

theorem isLimit_of_takes_than
    {word : String}
    {before text after : Text}
    (known : word ∈ limitWords)
    (takes : (literal word ++ blank ++ literal "than").Takes before text after) :
    IsLimit text := by
  obtain ⟨_, than, rfl, ⟨first, gap, rfl, isWord, isGap⟩, isThan⟩ := takes
  have isLimit := isLimit_of_takes_literal known isWord
  have gapPhrased := phrased_of_takes_blank isGap
  exact (isLimit.append gapPhrased).append (phrased_of_takes_literal (by decide) isThan)

/-- A limit has two forms of one word and one of two words. -/
theorem isLimit_of_takes_anyOf
    {first second third : String}
    {before text after : Text}
    (known : [first, second, third] ⊆ limitWords)
    (takes : (anyOf [literal first, literal second,
      literal third ++ blank ++ literal "than"]).Takes before text after) :
    IsLimit text := by
  obtain ⟨pattern, member, takes⟩ := takes_anyOf.1 takes
  simp only [List.mem_cons, List.not_mem_nil, or_false] at member
  rcases member with rfl | rfl | rfl
  · exact isLimit_of_takes_literal (known (by simp)) takes
  · exact isLimit_of_takes_literal (known (by simp)) takes
  · exact isLimit_of_takes_than (known (by simp)) takes

theorem isLimit_of_takes
    {limit : Pattern}
    {before text after : Text}
    (known : limit ∈ [atMost, atLeast])
    (takes : limit.Takes before text after) :
    IsLimit text := by
  simp only [List.mem_cons, List.not_mem_nil, or_false] at known
  rcases known with rfl | rfl
  · exact isLimit_of_takes_anyOf (by decide) takes
  · exact isLimit_of_takes_anyOf (by decide) takes

theorem startsWithWord_surrounds
    {opening number closing : Text}
    (surrounds : Surrounds opening closing)
    (isNumber : IsNumber number)
    (after : Text) :
    Cursor.startsWithWord (opening ++ (number ++ closing) ++ after) = true := by
  rcases surrounds.before with rfl | isLimit
  · rw [List.nil_append, List.append_assoc]
    exact startsWithWord_of_startsWithDigit (isNumber.startsWithDigit _)
  · obtain ⟨word, known, rest, rfl⟩ := isLimit.begins
    rw [List.append_assoc, List.append_assoc]
    exact startsWithWord_name_append areWords_companions (mem_companions known) _

theorem exists_number_of_takes_orBelow
    {before text after : Text}
    (takes : orBelow.Takes before text after) :
    ∃ number closing, text = number ++ closing ∧ IsNumber number ∧ Surrounds [] closing := by
  obtain ⟨-, inner, -⟩ := takes_bounded.1 takes
  obtain ⟨_, rest, rfl, ⟨_, word, rfl, ⟨_, more, rfl, ⟨_, gap, rfl, ⟨digits, scale, rfl, isNumber,
    isScale⟩, isGap⟩, isMore⟩, isWord⟩, isRest⟩ := inner
  obtain rfl := takes_only.1 isScale
  refine ⟨digits, 'k' :: (gap ++ (more ++ (word ++ rest))), by simp, isNumber_of_takes isNumber,
    .inl rfl, ?_, [], 'k', _, rfl, rfl, by simp⟩
  have scalePhrased : Phrased IsCompanion ['k'] := .of_word ⟨"k", by decide, rfl⟩
  have morePhrased : Phrased IsCompanion more := by
    rcases takes_opt.1 isMore with ⟨conjunction, gap, rfl, isOr, isGap⟩ | rfl
    · exact (phrased_of_takes_literal (by decide) isOr).append (phrased_of_takes_blank isGap)
    · exact .nil
  have wordPhrased : Phrased IsCompanion word := phrased_of_takes_oneOf (by decide) isWord
  have restPhrased : Phrased IsCompanion rest := by
    rcases takes_opt.1 isRest with ⟨gap, unit, rfl, isGap, isUnit⟩ | rfl
    · exact (phrased_of_takes_blank isGap).append (phrased_of_takes_oneOf (by decide) isUnit)
    · exact .nil
  exact scalePhrased.append
    ((phrased_of_takes_blank isGap).append (morePhrased.append (wordPhrased.append restPhrased)))

theorem exists_number_of_takes_limitWithUnit
    {limit : Pattern}
    {before text after : Text}
    (known : limit ∈ [atMost, atLeast])
    (takes : (limitWithUnit limit).Takes before text after) :
    ∃ opening number closing, text = opening ++ (number ++ closing) ∧ IsNumber number ∧
      Surrounds opening closing := by
  obtain ⟨-, inner, -⟩ := takes_bounded.1 takes
  obtain ⟨_, unit, rfl, ⟨_, gap', rfl, ⟨_, scale, rfl, ⟨_, gap, rfl, ⟨_, digits, rfl, ⟨words, space,
    rfl, isLimit, isSpace⟩, isNumber⟩, isGap⟩, isScale⟩, isGap'⟩, isUnit⟩ := inner
  have opens := (isLimit_of_takes known isLimit).append (phrased_of_takes_blank isSpace)
  refine ⟨words ++ space, digits, gap ++ (scale ++ (gap' ++ unit)), by simp,
    isNumber_of_takes isNumber, .inr opens, ?_, ?_⟩
  · have scalePhrased : Phrased IsCompanion scale := by
      rcases takes_opt.1 isScale with same | rfl
      · rw [takes_only.1 (takes_capture.1 same)]
        exact .of_word ⟨"k", by decide, rfl⟩
      · exact .nil
    have unitPhrased : Phrased IsCompanion unit := phrased_of_takes_oneOf (by decide) isUnit
    exact (phrased_of_takes_gap isGap).append
      (scalePhrased.append ((phrased_of_takes_gap isGap').append unitPhrased))
  · rcases takes_opt.1 isScale with same | rfl
    · rw [takes_only.1 (takes_capture.1 same)]
      exact ⟨gap, 'k', gap' ++ unit, rfl, takes_gap.1 isGap, by simp⟩
    · obtain ⟨name, member, rfl⟩ := takes_oneOf.1 isUnit
      obtain ⟨c, letter, rest, shape⟩ := exists_head_of_mem_distanceWords member
      refine ⟨gap ++ gap', c, rest, by simp [shape], ?_, letter⟩
      have first := takes_gap.1 isGap
      have second := takes_gap.1 isGap'
      rw [isBlank, List.all_append, Bool.and_eq_true]
      exact ⟨first, second⟩

theorem exists_number_of_takes_limitInThousands
    {limit : Pattern}
    {before text after : Text}
    (known : limit ∈ [atMost, atLeast])
    (takes : (limitInThousands limit).Takes before text after) :
    ∃ opening number closing, text = opening ++ (number ++ closing) ∧ IsNumber number ∧
      Surrounds opening closing := by
  obtain ⟨-, inner, -⟩ := takes_bounded.1 takes
  obtain ⟨_, scale, rfl, ⟨_, digits, rfl, ⟨words, space, rfl, isLimit, isSpace⟩, isNumber⟩,
    isScale⟩ := inner
  have opens := (isLimit_of_takes known isLimit).append (phrased_of_takes_blank isSpace)
  obtain rfl := takes_only.1 isScale
  refine ⟨words ++ space, digits, ['k'], by simp, isNumber_of_takes isNumber, .inr opens, ?_, ?_⟩
  · exact .of_word ⟨"k", by decide, rfl⟩
  · exact ⟨[], 'k', [], rfl, rfl, by simp⟩

/-- What is claimed for distances is a number between words of limit and distance. -/
theorem exists_number_of_takes
    {pattern : Pattern}
    {before text after : Text}
    (known : pattern ∈ patterns)
    (takes : pattern.Takes before text after) :
    ∃ opening number closing, text = opening ++ (number ++ closing) ∧ IsNumber number ∧
      Surrounds opening closing ∧ Cursor.startsWithWord before = false := by
  have split : (∃ opening number closing, text = opening ++ (number ++ closing) ∧
      IsNumber number ∧ Surrounds opening closing) ∧
        Cursor.atBoundary ⟨before, text ++ after⟩ = true := by
    simp only [patterns, List.mem_cons, List.not_mem_nil, or_false] at known
    rcases known with rfl | rfl | rfl | rfl | rfl
    · obtain ⟨number, closing, shape⟩ := exists_number_of_takes_orBelow takes
      exact ⟨⟨[], number, closing, shape⟩, (takes_bounded.1 takes).1⟩
    · exact ⟨exists_number_of_takes_limitWithUnit (by simp) takes, (takes_bounded.1 takes).1⟩
    · exact ⟨exists_number_of_takes_limitWithUnit (by simp) takes, (takes_bounded.1 takes).1⟩
    · exact ⟨exists_number_of_takes_limitInThousands (by simp) takes, (takes_bounded.1 takes).1⟩
    · exact ⟨exists_number_of_takes_limitInThousands (by simp) takes, (takes_bounded.1 takes).1⟩
  obtain ⟨⟨opening, number, closing, rfl, isNumber, surrounds⟩, opens⟩ := split
  refine ⟨opening, number, closing, rfl, isNumber, surrounds, ?_⟩
  apply startsWithWord_eq_false_of_atBoundary opens
  exact startsWithWord_surrounds surrounds isNumber after

end Mileage
end SearchPhrase
