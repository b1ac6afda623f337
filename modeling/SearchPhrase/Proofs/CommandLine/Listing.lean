import SearchPhrase.Proofs.Phrase.Settling
import SearchPhrase.Proofs.Record.SingleLine
import SearchPhrase.Proofs.Record.Structured
import SearchPhrase.Proofs.Text.Lines

/-!
# Lines about filters

The readable form of an interpretation has a line for the keywords, a line with a bullet for each
filter, and a last line with the summary or a note that there are no filters.  None of these can be
mistaken for another: what is read from a phrase fits on a line, except for a phrase that is kept
whole as its own keywords, and such a phrase holds neither an arrow nor a bullet.
-/

namespace SearchPhrase

open Text

namespace Keywords

/-- The signs that lines begin with. -/
def signs : List Char :=
  ['→', '•']

/-- Nothing that is taken out of a phrase holds a sign. -/
theorem mem_strip {c : Char} {phrase : Text} (sign : c ∈ signs) (member : c ∈ phrase) :
    c ∈ strip phrase := by
  have excluded : ∀ c ∈ signs, ∀ pass ∈ figurePasses ++ phrasePasses,
      pass.pattern.excludes c = true := by
    decide +kernel
  rw [strip_eq_runAll]
  exact Pass.mem_runAll (excluded c sign) member

theorem not_mem_collapse (text : Text) : '\n' ∉ collapse text := by
  intro member
  rcases mem_intercalate member with between | ⟨word, known, inside⟩
  · exact absurd between (by decide)
  · exact absurd ((of_mem_words known).2.1 _ inside) (by decide)

/-- Keywords fit on a line, unless they are a whole phrase without signs. -/
theorem not_mem_read (phrase : Text) :
    '\n' ∉ read phrase ∨ ∀ c ∈ signs, c ∉ read phrase := by
  by_cases kept : collapse (strip phrase) = []
  · cases blank : isBlank phrase with
    | true =>
        have everything : read phrase = matchAll := by simp [read, kept, blank]
        rw [everything]
        exact .inl (by decide)
    | false =>
        rw [read_of_nothing kept blank]
        have nothing : isBlank (strip phrase) = true := by
          rcases collapse_eq_nil_or_isTrimmed (strip phrase) with ⟨-, nothing⟩ | ⟨trimmed, -⟩
          · exact nothing
          · exact absurd kept trimmed.1
        have visible : ∀ c ∈ signs, Unicode.isWhiteSpace c = false := by decide
        right
        intro c sign member
        have space := isBlank_iff.1 nothing c (mem_strip sign member)
        rw [visible c sign] at space
        exact absurd space Bool.false_ne_true
  · rw [read_of_kept kept]
    exact .inl (not_mem_collapse _)

end Keywords

namespace CommandLine

/-- The start of a line for a filter. -/
def bullet : Text :=
  "  • ".toList

/-- The line that notes that there are no filters. -/
def noFilters : Text :=
  "→ No filters detected.".toList

/-- A text has a line for a filter. -/
def ListsFilters (output : String) : Prop :=
  ∃ entry ∈ lines output.toList, bullet <+: entry

/-- A text has the line that notes that there are no filters. -/
def SaysNone (output : String) : Prop :=
  noFilters ∈ lines output.toList

/-- A line says nothing about whether there are filters. -/
def IsNeutral (entry : Text) : Prop :=
  entry ≠ noFilters ∧ ¬bullet <+: entry

/-- A line is neutral if it begins with what neither a bullet nor the note begins with. -/
theorem isNeutral_of_prefix
    {opening entry : Text}
    (opens : opening <+: entry)
    (apart : ¬opening <+: noFilters ∧ ¬opening <+: bullet ∧ ¬bullet <+: opening) :
    IsNeutral entry := by
  refine ⟨fun same => apart.1 (same ▸ opens), fun other => ?_⟩
  rcases List.prefix_or_prefix_of_prefix opens other with before | before
  · exact apart.2.1 before
  · exact apart.2.2 before

theorem isNeutral_of_not_mem {entry : Text} (plain : ∀ c ∈ Keywords.signs, c ∉ entry) :
    IsNeutral entry := by
  have arrow : '→' ∈ noFilters := by decide
  have mark : '•' ∈ bullet := by decide
  constructor
  · rintro rfl
    exact plain '→' (by decide) arrow
  · intro opens
    exact plain '•' (by decide) (opens.subset mark)

/-- What follows a line begins a line of its own. -/
theorem lines_line_append (text rest : Text) :
    lines (line text ++ rest) = lines (line text) ++ lines rest := by
  rw [line, List.append_assoc]
  exact lines_append_feed text rest

theorem lines_flatMap_paramLine_append (pairs : List (String × String)) (rest : Text) :
    lines (pairs.flatMap paramLine ++ rest) =
      pairs.flatMap (fun pair => lines (paramLine pair)) ++ lines rest := by
  induction pairs with
  | nil => rfl
  | cons pair pairs ih =>
      rw [List.flatMap_cons, List.flatMap_cons, List.append_assoc, List.append_assoc, ← ih]
      exact lines_line_append _ _

theorem mem_lines_readable {interpretation : Interpretation} {entry : Text} :
    entry ∈ lines (readable interpretation) ↔
      entry ∈ lines (line ("→ Searching for: ".toList ++ interpretation.filters.query.toList)) ∨
        (∃ pair ∈ listedParams interpretation.filters, entry ∈ lines (paramLine pair)) ∨
        entry ∈ lines (summaryLine interpretation.interpretedAs) := by
  rw [readable, List.append_assoc, lines_line_append, lines_flatMap_paramLine_append,
    List.mem_append, List.mem_append, List.mem_flatMap]

/-- What is printed after an opening gives lines that begin with it, and if it holds line feeds,
others that are made of it. -/
theorem opening_cases
    {opening text entry : Text}
    (plain : ∀ c ∈ ['\n', '\r'], c ∉ opening)
    (member : entry ∈ lines (line (opening ++ text))) :
    opening <+: entry ∨ ('\n' ∈ text ∧ entry ⊆ text) := by
  have bare : opening.getLast? ≠ some '\r' := fun last =>
    plain '\r' (by decide) (List.mem_of_getLast? last)
  obtain ⟨rest, others, printed, each⟩ :=
    lines_append_of_opening (plain '\n' (by decide)) bare text
  rw [line, printed] at member
  rcases List.mem_cons.1 member with rfl | member
  · exact .inl (List.prefix_append _ _)
  · exact .inr (each entry member)

theorem prefix_of_single
    {opening text entry : Text}
    (plain : ∀ c ∈ ['\n', '\r'], c ∉ opening)
    (single : '\n' ∉ text)
    (member : entry ∈ lines (line (opening ++ text))) :
    opening <+: entry :=
  (opening_cases plain member).resolve_right fun fed => single fed.1

section Phrase

variable {phrase : String} {entry : Text}

/-- The line for the keywords is neutral, and so are the others where a phrase with line feeds is
kept whole. -/
theorem isNeutral_heading
    (member : entry ∈ lines (line ("→ Searching for: ".toList ++
      (Interpretation.ofPhrase phrase).filters.query.toList))) :
    IsNeutral entry := by
  have keywords : (Interpretation.ofPhrase phrase).filters.query.toList =
      Keywords.read phrase.toList := String.toList_ofList
  rw [keywords] at member
  rcases opening_cases (by decide) member with opens | ⟨fed, inside⟩
  · exact isNeutral_of_prefix opens (by decide)
  · rcases Keywords.not_mem_read phrase.toList with single | plain
    · exact absurd fed single
    · exact isNeutral_of_not_mem fun c sign member => plain c sign (inside member)

theorem isNeutral_summary
    {summary : String}
    (told : (Interpretation.ofPhrase phrase).interpretedAs = some summary)
    (member : entry ∈ lines (summaryLine (some summary))) :
    IsNeutral entry := by
  have single := (Interpretation.isSingleLine_filters phrase).not_mem_summary told
  exact isNeutral_of_prefix (prefix_of_single (by decide) single member) (by decide)

/-- A filter takes up a line that begins with a bullet. -/
theorem bullet_of_mem_paramLine
    {pair : String × String}
    (listed : pair ∈ listedParams (Interpretation.ofPhrase phrase).filters)
    (member : entry ∈ lines (paramLine pair)) :
    bullet <+: entry := by
  have single := (Interpretation.isSingleLine_filters phrase).not_mem_listed listed
  rw [paramLine, List.append_assoc, List.append_assoc] at member
  rw [List.append_assoc] at single
  exact prefix_of_single (by decide) single member

theorem exists_bullet (pair : String × String) :
    ∃ entry ∈ lines (paramLine pair), bullet <+: entry := by
  obtain ⟨rest, others, printed, -⟩ := @lines_append_of_opening bullet (by decide) (by decide)
    (pair.1.toList ++ (": ".toList ++ pair.2.toList))
  refine ⟨bullet ++ rest, ?_, List.prefix_append _ _⟩
  rw [paramLine, List.append_assoc, List.append_assoc, line]
  exact printed ▸ List.mem_cons_self

theorem lines_noFilters : lines (summaryLine none) = [noFilters] := by
  decide

/-- The lines for a phrase list a filter if there is one to list. -/
theorem listsFilters_iff :
    ListsFilters (interpret .text none phrase) ↔
      listedParams (Interpretation.ofPhrase phrase).filters ≠ [] := by
  have printed : (interpret .text none phrase).toList =
      readable (Interpretation.ofPhrase phrase) := String.toList_ofList
  rw [ListsFilters, printed]
  constructor
  · rintro ⟨entry, member, opens⟩ nothing
    rcases mem_lines_readable.1 member with heading | ⟨pair, listed, -⟩ | verdict
    · exact (isNeutral_heading heading).2 opens
    · simp [nothing] at listed
    · cases told : (Interpretation.ofPhrase phrase).interpretedAs with
      | none =>
          rw [told, lines_noFilters, List.mem_singleton] at verdict
          exact absurd (verdict ▸ opens) (by decide)
      | some summary =>
          rw [told] at verdict
          exact (isNeutral_summary told verdict).2 opens
  · intro some
    obtain ⟨pair, listed⟩ := List.exists_mem_of_ne_nil _ some
    obtain ⟨entry, member, opens⟩ := exists_bullet pair
    exact ⟨entry, mem_lines_readable.2 (.inr (.inl ⟨pair, listed, member⟩)), opens⟩

/-- The lines for a phrase note that there are no filters if there is no summary to tell. -/
theorem saysNone_iff :
    SaysNone (interpret .text none phrase) ↔
      (Interpretation.ofPhrase phrase).interpretedAs = none := by
  have printed : (interpret .text none phrase).toList =
      readable (Interpretation.ofPhrase phrase) := String.toList_ofList
  rw [SaysNone, printed]
  constructor
  · intro member
    rcases mem_lines_readable.1 member with heading | ⟨pair, listed, filter⟩ | verdict
    · exact absurd rfl (isNeutral_heading heading).1
    · exact absurd (bullet_of_mem_paramLine listed filter) (by decide)
    · cases told : (Interpretation.ofPhrase phrase).interpretedAs with
      | none => rfl
      | some summary =>
          rw [told] at verdict
          exact absurd rfl (isNeutral_summary told verdict).1
  · intro told
    refine mem_lines_readable.2 (.inr (.inr ?_))
    rw [told, lines_noFilters]
    exact List.mem_singleton_self _

end Phrase

/-- Where no category is set, a record narrows a search down by its own test exactly if it has a
summary, exactly if it is written with a pair besides the query, and exactly if a pair is listed for
it.  A phrase therefore has a summary exactly if its record passes the test, and its readable lines
list a filter exactly then, and note that there are none otherwise. -/
theorem readings_agree :
    (∀ record : FilterRecord, record.category = none →
      List.TFAE [record.isStructured = true, record.summary?.isSome = true,
        ∃ pair ∈ record.params, pair.1 ≠ "query", listedParams record ≠ []]) ∧
    ∀ phrase : String,
      ((Interpretation.ofPhrase phrase).interpretedAs.isSome = true ↔
        (Interpretation.ofPhrase phrase).filters.isStructured = true) ∧
      (ListsFilters (interpret .text none phrase) ↔
        (Interpretation.ofPhrase phrase).filters.isStructured = true) ∧
      (SaysNone (interpret .text none phrase) ↔
        ¬ListsFilters (interpret .text none phrase)) := by
  refine ⟨fun record => FilterRecord.isStructured_tfae, fun phrase => ?_⟩
  have agree := FilterRecord.isStructured_tfae
    (show (Interpretation.ofPhrase phrase).filters.category = none from rfl)
  have told : (Interpretation.ofPhrase phrase).interpretedAs.isSome = true ↔
      (Interpretation.ofPhrase phrase).filters.isStructured = true := agree.out 1 0
  have lists : ListsFilters (interpret .text none phrase) ↔
      (Interpretation.ofPhrase phrase).filters.isStructured = true :=
    listsFilters_iff.trans (agree.out 3 0)
  refine ⟨told, lists, ?_⟩
  rw [saysNone_iff, lists, ← told, Option.not_isSome_iff_eq_none]

/-- A make without characters counts as set, and a phrase with a line break that is kept whole has
no filters. -/
theorem readings_agree_empty :
    ({ make := some "" } : FilterRecord).category = none ∧
      listedParams { make := some "" } ≠ [] ∧
      SaysNone (interpret .text none "in\nthe") ∧
      ¬ListsFilters (interpret .text none "in\nthe") := by
  obtain ⟨records, phrases⟩ := readings_agree
  obtain ⟨-, lists, notes⟩ := phrases "in\nthe"
  have plain : (Interpretation.ofPhrase "in\nthe").filters.isStructured = false := by
    decide +kernel
  have nothing : ¬ListsFilters (interpret .text none "in\nthe") := by
    rw [lists, plain]
    exact Bool.false_ne_true
  exact ⟨rfl, ((records { make := some "" } rfl).out 0 3).1 rfl, notes.2 nothing, nothing⟩

end CommandLine
end SearchPhrase
