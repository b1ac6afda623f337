import Mathlib.Data.List.Basic
import SearchPhrase.Phrase.Locality
import SearchPhrase.Phrase.Maker
import SearchPhrase.Proofs.Pattern.Records
import SearchPhrase.Proofs.Pattern.WholeWords

/-!
# Names from lists

A phrase names the first entry of a list that stands in it as whole words, wherever that is.  Which
of the stretches that hold the entry is reported is a matter of their places: the leftmost one, or
for a place the leftmost one that a preposition introduces, if there is any.
-/

namespace SearchPhrase

open Cursor Pattern Text Unicode

namespace Locality

variable {text : Text} {place : String}

/-- A mention is a preposition, white space and the name of a place, and stands as whole words. -/
structure Introduces (place : String) (mention name : Stretch text) : Prop where
  /-- The name comes after a preposition and white space. -/
  parts : ∃ word ∈ prepositions, ∃ gap, gap ≠ [] ∧ isBlank gap = true ∧
    mention.body = word.toList ++ (gap ++ name.body) ∧
      name.before = mention.before ++ (word.toList ++ gap)
  /-- The mention ends with the name. -/
  after : name.after = mention.after
  /-- The name is the place. -/
  body : name.body = place.toList
  /-- The mention stands as whole words. -/
  isWhole : mention.IsWhole

/-- A stretch is the name of a place in a mention. -/
def IsIntroduced (place : String) (mention : Stretch text) : Prop :=
  ∃ name, Introduces place mention name

/-- The names of places begin and end with a word. -/
theorem startsWithWord_place (known : place ∈ places) : startsWithWord place.toList = true := by
  have each : ∀ place ∈ places, startsWithWord place.toList = true := by decide +kernel
  exact each place known

theorem place_ne_nil (known : place ∈ places) : place.toList ≠ [] := by
  intro empty
  have starts := startsWithWord_place known
  rw [empty] at starts
  exact absurd starts Bool.false_ne_true

/-- A name in a mention stands as whole words itself. -/
theorem Introduces.holds
    {mention name : Stretch text}
    (introduces : Introduces place mention name)
    (known : place ∈ places) :
    name.Holds place := by
  obtain ⟨⟨word, -, gap, there, blank, split, place⟩, after, body, opens, closes⟩ := introduces
  refine ⟨body, ?_, ?_⟩
  · obtain ⟨front, c, rfl⟩ := (List.eq_nil_or_concat gap).resolve_left there
    have space : isWord c = false :=
      isWord_of_isWhiteSpace (isBlank_iff.1 blank c (by simp))
    have nonempty : name.body ≠ [] := by
      rw [body]
      exact place_ne_nil known
    rw [atBoundary, startsWithWord_append nonempty, body, startsWithWord_place known, place]
    simp [startsWithWord, space]
  · have ends : name.before ++ name.body = mention.before ++ mention.body := by
      rw [place, split]
      simp only [List.append_assoc]
    rwa [ends, after]

/-- A preposition ends where white space begins, and white space where the place begins. -/
theorem lead_inj
    {word word' : String}
    {gap gap' rest rest' : Text}
    (known : place ∈ places)
    (isWord : word ∈ prepositions)
    (isWord' : word' ∈ prepositions)
    (isGap : gap ≠ [] ∧ isBlank gap = true)
    (isGap' : gap' ≠ [] ∧ isBlank gap' = true)
    (same : word.toList ++ (gap ++ (place.toList ++ rest)) =
      word'.toList ++ (gap' ++ (place.toList ++ rest'))) :
    word.toList ++ gap = word'.toList ++ gap' := by
  have solid : ∀ word ∈ prepositions, ∀ c ∈ word.toList, (!isWhiteSpace c) = true := by decide
  have letter : ∀ place ∈ places, ∀ c ∈ place.toList.head?, isWhiteSpace c = false := by decide
  have opens : ∀ {gap rest : Text}, gap ≠ [] ∧ isBlank gap = true →
      ∀ c ∈ (gap ++ rest).head?, (!isWhiteSpace c) = false := by
    rintro gap rest ⟨there, blank⟩ c first
    rw [List.head?_append_of_ne_nil _ there] at first
    simp [isBlank_iff.1 blank c (List.mem_of_head? first)]
  have starts : ∀ rest : Text, ∀ c ∈ (place.toList ++ rest).head?, isWhiteSpace c = false := by
    intro rest c first
    rw [List.head?_append_of_ne_nil _ (place_ne_nil known)] at first
    exact letter place known c first
  obtain ⟨words, others⟩ := @append_inj_of_kind (!isWhiteSpace ·) _ _ _ _ (solid word isWord)
    (solid word' isWord') (opens isGap) (opens isGap') same
  obtain ⟨gaps, -⟩ := append_inj_of_kind (isBlank_iff.1 isGap.2) (isBlank_iff.1 isGap'.2)
    (starts rest) (starts rest') others
  rw [words, gaps]

/-- A mention that begins at a place holds one name only. -/
theorem Introduces.span_eq
    {mention name mention' name' : Stretch text}
    (introduces : Introduces place mention name)
    (other : Introduces place mention' name')
    (known : place ∈ places)
    (same : mention.before = mention'.before) :
    name.span = name'.span := by
  obtain ⟨⟨word, isWord, gap, there, blank, split, before⟩, after, body, -⟩ := introduces
  obtain ⟨⟨word', isWord', gap', there', blank', split', before'⟩, after', body', -⟩ := other
  have wholes := (Stretch.before_eq_of_length_eq (congrArg List.length same)).2
  rw [split, split', body, body'] at wholes
  simp only [List.append_assoc] at wholes
  have leads := lead_inj known isWord isWord' ⟨there, blank⟩ ⟨there', blank'⟩ wholes
  exact Stretch.span_eq (by rw [before, before', same, leads]) (body.trans body'.symm)

/-- The part of a stretch behind a preposition and white space is a name that it introduces. -/
theorem introduces_part
    {mention : Stretch text}
    {word : String}
    {gap : Text}
    (isWhole : mention.IsWhole)
    (known : word ∈ prepositions)
    (there : gap ≠ [])
    (blank : isBlank gap = true)
    (split : mention.body = (word.toList ++ gap) ++ (place.toList ++ [])) :
    Introduces place mention (mention.part split) where
  parts := by
    refine ⟨word, known, gap, there, blank, ?_, rfl⟩
    rw [split, List.append_nil, List.append_assoc]
    rfl
  after := rfl
  body := rfl
  isWhole := isWhole

/-- A preposition, white space and a place are taken exactly where a mention stands. -/
theorem takes_introduced_iff {mention : Stretch text} :
    (introduced place).Takes mention.before.reverse mention.body mention.after ↔
      IsIntroduced place mention := by
  rw [introduced, takes_bounded, ← List.reverse_append]
  constructor
  · rintro ⟨opens, ⟨_, tail, split, ⟨head, gap, rfl, isWord, isGap⟩, isName⟩, closes⟩
    obtain ⟨word, known, rfl⟩ := takes_oneOf.1 isWord
    obtain ⟨there, blank⟩ := takes_blank.1 isGap
    rw [takes_literal.1 (takes_capture.1 isName), ← List.append_nil place.toList] at split
    exact ⟨_, introduces_part ⟨opens, closes⟩ known there blank split⟩
  · rintro ⟨name, ⟨word, known, gap, there, blank, split, -⟩, -, body, opens, closes⟩
    refine ⟨opens, ⟨word.toList ++ gap, name.body, ?_, ⟨word.toList, gap, rfl, ?_, ?_⟩, ?_⟩, closes⟩
    · rw [split, List.append_assoc]
    · exact takes_oneOf.2 ⟨word, known, rfl⟩
    · exact takes_blank.2 ⟨there, blank⟩
    · exact takes_literal.2 body

theorem isPlain_literal (phrase : String) : (literal phrase).isPlain = true := by
  unfold literal
  induction phrase.toList with
  | nil => rfl
  | cons c rest ih => simpa [only, isPlain] using ih

/-- An occurrence of an introduced place is a mention, and records the name in it. -/
theorem exists_introduces_of_mem
    {found : Match}
    (member : found ∈ (introduced place).findAll text) :
    ∃ name, Introduces place (.ofMatch member) name ∧ found.slotSpan? .place = some name.span := by
  obtain ⟨opens, records, closes⟩ := records_bounded.1 (records_of_mem_findAll member)
  obtain ⟨_, tail, split, ⟨head, gap, rfl, isWord, isGap⟩, records⟩ :=
    (records_plain_append (by decide)).1 records
  obtain ⟨isName, captures⟩ := (records_capture (isPlain_literal place)).1 records
  obtain ⟨word, known, rfl⟩ := takes_oneOf.1 isWord
  obtain ⟨there, blank⟩ := takes_blank.1 isGap
  obtain rfl : tail = place.toList := takes_literal.1 isName
  have parts : found.text = (word.toList ++ gap) ++ (place.toList ++ []) := by
    rw [split, List.append_nil]
  have isWhole : (Stretch.ofMatch member).IsWhole := by
    constructor
    · rwa [Stretch.ofMatch, List.reverse_reverse]
    · rwa [Stretch.ofMatch, List.reverse_append, List.reverse_reverse]
  refine ⟨_, introduces_part isWhole known there blank parts, ?_⟩
  simp [Match.slotSpan?, captures, Stretch.span, Stretch.part, Stretch.ofMatch, Capture.around,
    Capture.text, Cursor.textTo, Nat.add_comm, Nat.add_left_comm]

variable (known : place ∈ places)

include known

theorem isVisible_introduced : (introduced place).isVisible = true := by
  have isPlace : (capture .place (literal place)).isVisible = true :=
    isVisible_literal (place_ne_nil known)
  rw [introduced, isVisible_bounded]
  exact Bool.or_eq_true_iff.2 (.inr isPlace)

theorem introducedSpan?_eq_none_iff :
    introducedSpan? place text = none ↔ ∀ mention : Stretch text, ¬IsIntroduced place mention := by
  constructor
  · intro nothing mention isIntroduced
    obtain ⟨found, member, -⟩ := exists_found_of_takes (isVisible_introduced known)
      (by rw [List.reverse_reverse, mention.whole]) (takes_introduced_iff.2 isIntroduced)
    obtain ⟨first, isFirst⟩ := exists_find?_eq_some member
    obtain ⟨name, -, slot⟩ := exists_introduces_of_mem (mem_findAll_of_find? isFirst)
    simp [introducedSpan?, isFirst, slot] at nothing
  · intro absent
    have nothing : (introduced place).findAll text = [] := by
      apply List.eq_nil_iff_forall_not_mem.2
      intro found member
      obtain ⟨name, introduces, -⟩ := exists_introduces_of_mem member
      exact absent _ ⟨name, introduces⟩
    simp [introducedSpan?, find?_eq_none nothing]

/-- An introduced place is found in the leftmost mention. -/
theorem exists_isLeftmost_of_introducedSpan?
    {span : Span}
    (isFound : introducedSpan? place text = some span) :
    ∃ mention name : Stretch text, mention.IsLeftmost (IsIntroduced place) ∧
      Introduces place mention name ∧ name.span = span := by
  obtain ⟨found, first, slot⟩ := Option.bind_eq_some_iff.1 isFound
  have member := mem_findAll_of_find? first
  obtain ⟨name, introduces, place⟩ := exists_introduces_of_mem member
  refine ⟨.ofMatch member, name, ⟨⟨name, introduces⟩, ?_⟩, introduces, ?_⟩
  · intro other isIntroduced
    have later := length_le_of_find? (isVisible_introduced known) first
      (by rw [List.reverse_reverse, other.whole]) (takes_introduced_iff.2 isIntroduced)
    simpa [Stretch.ofMatch] using later
  · exact Option.some.inj (place.symm.trans slot)

theorem introducedSpan?_eq_some_iff {span : Span} :
    introducedSpan? place text = some span ↔
      ∃ mention name : Stretch text, mention.IsLeftmost (IsIntroduced place) ∧
        Introduces place mention name ∧ name.span = span := by
  refine ⟨exists_isLeftmost_of_introducedSpan? known, ?_⟩
  rintro ⟨mention, name, leftmost, introduces, rfl⟩
  cases isFound : introducedSpan? place text with
  | none =>
      exact absurd leftmost.isOne ((introducedSpan?_eq_none_iff known).1 isFound mention)
  | some span =>
      obtain ⟨other, name', isFirst, introduces', rfl⟩ :=
        exists_isLeftmost_of_introducedSpan? known isFound
      rw [introduces'.span_eq introduces known (isFirst.before_eq leftmost)]

end Locality

/-- An entry is the first one of a list with a property. -/
def IsFirstListed (entries : List String) (property : String → Prop) (entry : String) : Prop :=
  ∃ earlier later, entries = earlier ++ entry :: later ∧ property entry ∧
    ∀ other ∈ earlier, ¬property other

section Lists

variable {entries : List String} {property : String → Prop} {mentionOf? : String → Option Mention}

/-- A list has one first entry with a property. -/
theorem IsFirstListed.eq
    {first second : String}
    (isFirst : IsFirstListed entries property first)
    (other : IsFirstListed entries property second) :
    first = second := by
  obtain ⟨earlier, later, rfl, holds, absent⟩ := isFirst
  obtain ⟨earlier', later', same, holds', absent'⟩ := other
  rcases List.append_eq_append_iff.1 same with ⟨middle, rfl, tail⟩ | ⟨middle, rfl, tail⟩
  · cases middle with
    | nil => exact (List.cons.inj tail).1
    | cons entry middle =>
        obtain ⟨rfl, -⟩ := List.cons.inj tail
        exact absurd holds (absent' first (by simp))
  · cases middle with
    | nil => exact (List.cons.inj tail).1.symm
    | cons entry middle =>
        obtain ⟨rfl, -⟩ := List.cons.inj tail
        exact absurd holds' (absent second (by simp))

theorem IsFirstListed.of_iff
    {property' : String → Prop}
    {entry : String}
    (same : ∀ entry ∈ entries, property entry ↔ property' entry)
    (isFirst : IsFirstListed entries property entry) :
    IsFirstListed entries property' entry := by
  obtain ⟨earlier, later, rfl, holds, absent⟩ := isFirst
  refine ⟨earlier, later, rfl, (same entry (by simp)).1 holds, fun other member holds' => ?_⟩
  exact absent other member ((same other (by simp [member])).2 holds')

variable (decides : ∀ entry ∈ entries, mentionOf? entry = none ↔ ¬property entry)

include decides

theorem findSome?_eq_none_iff_absent :
    entries.findSome? mentionOf? = none ↔ ∀ entry ∈ entries, ¬property entry := by
  rw [List.findSome?_eq_none_iff]
  exact forall₂_congr decides

/-- A search through a list ends at the first entry with the property. -/
theorem findSome?_eq_some_iff_isFirstListed {mention : Mention} :
    entries.findSome? mentionOf? = some mention ↔
      ∃ entry, IsFirstListed entries property entry ∧ mentionOf? entry = some mention := by
  rw [List.findSome?_eq_some_iff]
  constructor
  · rintro ⟨earlier, entry, later, rfl, isFound, nothing⟩
    refine ⟨entry, ⟨earlier, later, rfl, ?_, ?_⟩, isFound⟩
    · by_contra absent
      simp [(decides entry (by simp)).2 absent] at isFound
    · exact fun other member => (decides other (by simp [member])).1 (nothing other member)
  · rintro ⟨entry, ⟨earlier, later, rfl, -, absent⟩, isFound⟩
    refine ⟨earlier, entry, later, rfl, isFound, fun other member => ?_⟩
    exact (decides other (by simp [member])).2 (absent other member)

end Lists

variable {text : Text}

namespace Maker

theorem isVisible_of_mem {make : String} (known : make ∈ makes) :
    (wholeWord make).isVisible = true := by
  have nonempty : ∀ make ∈ makes, make.toList ≠ [] := by decide +kernel
  rw [wholeWord, isVisible_bounded]
  exact isVisible_literal (nonempty make known)

theorem mentionOf?_eq_none_iff {make : String} (known : make ∈ makes) :
    mentionOf? text make = none ↔ ¬Occurs text make := by
  rw [mentionOf?, Option.map_eq_none_iff, wholeWordSpan?_eq_none_iff (isVisible_of_mem known)]

theorem read_eq_none_iff : read text = none ↔ ∀ make ∈ makes, ¬Occurs text make :=
  findSome?_eq_none_iff_absent fun _ => mentionOf?_eq_none_iff

/-- The first make of the list that stands in a text is read where it stands leftmost. -/
theorem read_eq_some_iff {mention : Mention} :
    read text = some mention ↔
      ∃ make, IsFirstListed makes (Occurs text) make ∧
        ∃ name : Stretch text, name.IsLeftmost (Stretch.Holds · make) ∧
          mention = ⟨displayName make, name.span⟩ := by
  rw [read, findSome?_eq_some_iff_isFirstListed fun _ => mentionOf?_eq_none_iff]
  apply exists_congr
  intro make
  apply and_congr_right
  rintro ⟨earlier, later, listed, -⟩
  have known : make ∈ makes := by simp [listed]
  simp only [mentionOf?, Option.map_eq_some_iff,
    wholeWordSpan?_eq_some_iff (isVisible_of_mem known)]
  constructor
  · rintro ⟨_, ⟨name, leftmost, rfl⟩, rfl⟩
    exact ⟨name, leftmost, rfl⟩
  · rintro ⟨name, leftmost, rfl⟩
    exact ⟨_, ⟨name, leftmost, rfl⟩, rfl⟩

/-- A make is known by the name that is displayed for it. -/
theorem lowercase_displayName {make : String} (known : make ∈ makes) :
    Unicode.lowercase (displayName make).toList = make.toList := by
  have each : ∀ make ∈ makes, Unicode.lowercase (displayName make).toList = make.toList := by
    decide +kernel
  exact each make known

end Maker

namespace Locality

variable {place : String}

/-- The stretch that is reported for a place. -/
inductive IsReported (place : String) (name : Stretch text) : Prop where
  /-- It is the name in the leftmost mention that a preposition introduces. -/
  | introduced {mention : Stretch text} (leftmost : mention.IsLeftmost (IsIntroduced place))
      (introduces : Introduces place mention name)
  /-- There is no such mention, and it is the leftmost stretch that holds the place. -/
  | bare (nowhere : ∀ mention : Stretch text, ¬IsIntroduced place mention)
      (leftmost : name.IsLeftmost (Stretch.Holds · place))

section Known

variable (known : place ∈ places)

include known

theorem isVisible_of_mem : (wholeWord place).isVisible = true := by
  rw [wholeWord, isVisible_bounded]
  exact isVisible_literal (place_ne_nil known)

/-- Prepositions have no part in whether a place is mentioned. -/
theorem mentionOf?_eq_none_iff : mentionOf? text place = none ↔ ¬Occurs text place := by
  rw [mentionOf?, Option.map_eq_none_iff, Option.or_eq_none_iff, introducedSpan?_eq_none_iff known,
    wholeWordSpan?_eq_none_iff (isVisible_of_mem known)]
  refine ⟨And.right, fun absent => ⟨?_, absent⟩⟩
  rintro mention ⟨name, introduces⟩
  exact absent ⟨name, introduces.holds known⟩

theorem mentionOf?_eq_some_iff {mention : Mention} :
    mentionOf? text place = some mention ↔
      ∃ name : Stretch text, IsReported place name ∧ mention = ⟨displayName place, name.span⟩ := by
  simp only [mentionOf?, Option.map_eq_some_iff, Option.or_eq_some_iff,
    introducedSpan?_eq_some_iff known, introducedSpan?_eq_none_iff known,
    wholeWordSpan?_eq_some_iff (isVisible_of_mem known)]
  constructor
  · rintro ⟨_, ⟨found, name, leftmost, introduces, rfl⟩ | ⟨nowhere, name, leftmost, rfl⟩, rfl⟩
    · exact ⟨name, .introduced leftmost introduces, rfl⟩
    · exact ⟨name, .bare nowhere leftmost, rfl⟩
  · rintro ⟨name, reported, rfl⟩
    refine ⟨_, ?_, rfl⟩
    cases reported with
    | @introduced found leftmost introduces =>
        exact .inl ⟨found, name, leftmost, introduces, rfl⟩
    | bare nowhere leftmost => exact .inr ⟨nowhere, name, leftmost, rfl⟩

end Known

theorem read_eq_none_iff : read text = none ↔ ∀ place ∈ places, ¬Occurs text place :=
  findSome?_eq_none_iff_absent fun _ => mentionOf?_eq_none_iff

/-- The first place of the list that stands in a text is read, from a mention with a preposition if
there is one. -/
theorem read_eq_some_iff {mention : Mention} :
    read text = some mention ↔
      ∃ place, IsFirstListed places (Occurs text) place ∧
        ∃ name : Stretch text, IsReported place name ∧
          mention = ⟨displayName place, name.span⟩ := by
  rw [read, findSome?_eq_some_iff_isFirstListed fun _ => mentionOf?_eq_none_iff]
  apply exists_congr
  intro place
  apply and_congr_right
  rintro ⟨earlier, later, listed, -⟩
  exact mentionOf?_eq_some_iff (by simp [listed])

/-- A place is known by the name that is displayed for it. -/
theorem lowercase_displayName (known : place ∈ places) :
    Unicode.lowercase (displayName place).toList = place.toList := by
  have each : ∀ place ∈ places, Unicode.lowercase (displayName place).toList = place.toList := by
    decide +kernel
  exact each place known

/-- Which place is named depends only on which places stand in the text. -/
theorem name_read_congr
    {other : Text}
    (same : ∀ place ∈ places, Occurs text place ↔ Occurs other place) :
    (read text).map Mention.name = (read other).map Mention.name := by
  cases found : read text with
  | none =>
      have absent := read_eq_none_iff.1 found
      rw [read_eq_none_iff.2 fun place known holds =>
        absent place known ((same place known).2 holds)]
  | some mention =>
      obtain ⟨place, isFirst, name, -, rfl⟩ := read_eq_some_iff.1 found
      have isFirst' := isFirst.of_iff same
      cases found' : read other with
      | none =>
          obtain ⟨earlier, later, listed, holds, -⟩ := isFirst'
          exact absurd holds (read_eq_none_iff.1 found' place (by simp [listed]))
      | some mention' =>
          obtain ⟨place', isFirst'', name', -, rfl⟩ := read_eq_some_iff.1 found'
          rw [isFirst'.eq isFirst'']
          rfl

end Locality

/-- A make or a place is read exactly if one of its list stands in the text as whole words.  It is
the first of the list to do so; a make is found at its leftmost stretch, a place in its leftmost
mention with a preposition, or else at its leftmost stretch.  Prepositions have no part in which
place is named, and the name that is displayed is the one of the list with capitals. -/
theorem Mention.read_listed (text : Text) :
    (Maker.read text = none ↔ ∀ make ∈ Maker.makes, ¬Occurs text make) ∧
      (∀ mention, Maker.read text = some mention ↔
        ∃ make, IsFirstListed Maker.makes (Occurs text) make ∧
          ∃ name : Stretch text, name.IsLeftmost (Stretch.Holds · make) ∧
            mention = ⟨Maker.displayName make, name.span⟩) ∧
      (Locality.read text = none ↔ ∀ place ∈ Locality.places, ¬Occurs text place) ∧
      (∀ mention, Locality.read text = some mention ↔
        ∃ place, IsFirstListed Locality.places (Occurs text) place ∧
          ∃ name : Stretch text, Locality.IsReported place name ∧
            mention = ⟨Locality.displayName place, name.span⟩) ∧
      (∀ other, (∀ place ∈ Locality.places, Occurs text place ↔ Occurs other place) →
        (Locality.read text).map Mention.name = (Locality.read other).map Mention.name) ∧
      (∀ make ∈ Maker.makes,
        Unicode.lowercase (Maker.displayName make).toList = make.toList) ∧
      ∀ place ∈ Locality.places,
        Unicode.lowercase (Locality.displayName place).toList = place.toList :=
  ⟨Maker.read_eq_none_iff, fun _ => Maker.read_eq_some_iff, Locality.read_eq_none_iff,
    fun _ => Locality.read_eq_some_iff, fun _ => Locality.name_read_congr,
    fun _ => Maker.lowercase_displayName, fun _ => Locality.lowercase_displayName⟩

/-- A preposition moves the mention of a place, but does not bring another place to the front. -/
theorem Mention.read_listed_nelson :
    (∀ place ∈ Locality.places, Occurs "nelson tours in nelson, otago".toList place ↔
        Occurs "nelson in otago".toList place) ∧
      (Locality.read "nelson tours in nelson, otago".toList).map Mention.name =
        (Locality.read "nelson in otago".toList).map Mention.name ∧
      Locality.read "nelson tours in nelson, otago".toList = some ⟨"Nelson", ⟨16, 22⟩⟩ ∧
      Locality.read "nelson in otago".toList = some ⟨"Nelson", ⟨0, 6⟩⟩ := by
  have same : ∀ place ∈ Locality.places,
      ((wholeWord place).occursIn "nelson tours in nelson, otago".toList = true ↔
        (wholeWord place).occursIn "nelson in otago".toList = true) := by
    decide +kernel
  have occurs : ∀ place ∈ Locality.places, Occurs "nelson tours in nelson, otago".toList place ↔
      Occurs "nelson in otago".toList place := by
    intro place known
    have visible := Locality.isVisible_of_mem known
    rw [← occursIn_wholeWord_iff visible, ← occursIn_wholeWord_iff visible]
    exact same place known
  exact ⟨occurs, (read_listed _).2.2.2.2.1 _ occurs, by decide +kernel, by decide +kernel⟩

end SearchPhrase
