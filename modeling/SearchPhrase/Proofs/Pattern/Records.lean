import SearchPhrase.Proofs.Pattern.Takes

/-!
# Parts that a pattern records

Beside the text that it takes, a pattern records the parts of it that have names.  What it may
record is described along with the text, so that the parts of an occurrence are known from its form.
-/

namespace SearchPhrase

namespace Capture

/-- The part that a text between two others is. -/
def around (slot : Slot) (before text after : Text) : Capture :=
  ⟨slot, ⟨before, text ++ after⟩, ⟨text.reverse ++ before, after⟩⟩

/-- The part between two places is the text between them. -/
theorem eq_around
    {slot : Slot}
    {start stop : Cursor}
    {text : Text}
    (after : start.after = text ++ stop.after)
    (before : stop.before = text.reverse ++ start.before) :
    ⟨slot, start, stop⟩ = around slot start.before text stop.after := by
  rw [around, ← after, ← before]

variable (slot : Slot) (before text after : Text)

@[simp] theorem slot_around : (around slot before text after).slot = slot := rfl

@[simp] theorem stop_around :
    (around slot before text after).stop = ⟨text.reverse ++ before, after⟩ := rfl

@[simp] theorem text_around : (around slot before text after).text = text := by
  simp [around, Capture.text, Cursor.textTo]

end Capture

namespace Pattern

/-- Whether a pattern may take a text that stands between others, the one before it back to front,
and record the given parts, the latest first. -/
def Records : Pattern → Text → Text → Text → List Capture → Prop
  | never, _, _, _, _ => False
  | empty, _, text, _, captures => text = [] ∧ captures = []
  | char cls, _, text, _, captures =>
      (∃ c, text = [c] ∧ cls.accepts c = true) ∧ captures = []
  | seq first second, before, text, after, captures =>
      ∃ head tail early late, text = head ++ tail ∧ captures = late ++ early ∧
        first.Records before head (tail ++ after) early ∧
          second.Records (head.reverse ++ before) tail after late
  | alt preferred fallback, before, text, after, captures =>
      preferred.Records before text after captures ∨ fallback.Records before text after captures
  | run cls, _, text, _, captures => (∀ c ∈ text, cls.accepts c = true) ∧ captures = []
  | boundary, before, text, after, captures =>
      (text = [] ∧ Cursor.atBoundary ⟨before, after⟩ = true) ∧ captures = []
  | capture slot body, before, text, after, captures =>
      ∃ inner, captures = .around slot before text after :: inner ∧
        body.Records before text after inner

/-- A pattern takes every text with which it records anything. -/
theorem Records.takes
    {pattern : Pattern}
    {before text after : Text}
    {captures : List Capture}
    (records : pattern.Records before text after captures) :
    pattern.Takes before text after := by
  induction pattern generalizing before text after captures with
  | never => exact records
  | empty => exact records.1
  | char cls => exact records.1
  | seq first second ihFirst ihSecond =>
      obtain ⟨head, tail, early, late, whole, -, recordsHead, recordsTail⟩ := records
      exact ⟨head, tail, whole, ihFirst recordsHead, ihSecond recordsTail⟩
  | alt preferred fallback ihPreferred ihFallback =>
      rcases records with records | records
      · exact .inl (ihPreferred records)
      · exact .inr (ihFallback records)
  | run cls => exact records.1
  | boundary => exact records.1
  | capture slot body ih =>
      obtain ⟨inner, -, records⟩ := records
      exact ih records

/-- An outcome of a pattern adds parts that the pattern records to those known before. -/
theorem records_of_mem_outcomes
    {pattern : Pattern}
    {start stop : Outcome}
    {text : Text}
    (member : stop ∈ pattern.outcomes start)
    (after : start.cursor.after = text ++ stop.cursor.after)
    (before : stop.cursor.before = text.reverse ++ start.cursor.before) :
    ∃ captures, stop.captures = captures ++ start.captures ∧
      pattern.Records start.cursor.before text stop.cursor.after captures := by
  induction pattern generalizing start stop text with
  | never => exact absurd member List.not_mem_nil
  | empty =>
      have takes := takes_of_mem_outcomes member after before
      obtain rfl := List.mem_singleton.1 member
      exact ⟨[], rfl, takes, rfl⟩
  | char cls =>
      have takes := takes_of_mem_outcomes member after before
      obtain ⟨cursor, step, rfl⟩ := Option.map_eq_some_iff.1 (Option.mem_toList.1 member)
      exact ⟨[], rfl, takes, rfl⟩
  | seq first second ihFirst ihSecond =>
      obtain ⟨middle, taken, rest, head, tail, whole, headAfter, headBefore, tailAfter,
        tailBefore⟩ := exists_cut_of_mem_outcomes_seq member after
      obtain ⟨early, known, recordsHead⟩ := ihFirst taken headAfter headBefore
      obtain ⟨late, added, recordsTail⟩ := ihSecond rest tailAfter tailBefore
      rw [tailAfter] at recordsHead
      rw [headBefore] at recordsTail
      refine ⟨late ++ early, ?_, head, tail, early, late, whole, rfl, recordsHead, recordsTail⟩
      rw [added, known, List.append_assoc]
  | alt preferred fallback ihPreferred ihFallback =>
      rcases List.mem_append.1 member with member | member
      · obtain ⟨captures, added, records⟩ := ihPreferred member after before
        exact ⟨captures, added, .inl records⟩
      · obtain ⟨captures, added, records⟩ := ihFallback member after before
        exact ⟨captures, added, .inr records⟩
  | run cls =>
      have takes := takes_of_mem_outcomes member after before
      obtain ⟨cursor, -, rfl⟩ := List.mem_map.1 member
      exact ⟨[], rfl, takes, rfl⟩
  | boundary =>
      have takes := takes_of_mem_outcomes member after before
      rw [outcomes] at member
      split at member
      · obtain rfl := List.mem_singleton.1 member
        exact ⟨[], rfl, takes, rfl⟩
      · exact absurd member List.not_mem_nil
  | capture slot body ih =>
      obtain ⟨inner, known, rfl⟩ := List.mem_map.1 member
      have after : start.cursor.after = text ++ inner.cursor.after := after
      have before : inner.cursor.before = text.reverse ++ start.cursor.before := before
      obtain ⟨captures, added, records⟩ := ih known after before
      refine ⟨.around slot start.cursor.before text inner.cursor.after :: captures, ?_, captures,
        rfl, records⟩
      rw [← Capture.eq_around after before, List.cons_append, ← added]
      rfl

theorem records_of_matchAt?
    {pattern : Pattern}
    {cursor : Cursor}
    {found : Match}
    (matched : pattern.matchAt? cursor = some found) :
    pattern.Records found.before found.text found.after found.captures := by
  obtain ⟨stop, text, preferred, -, after, before, rfl⟩ := exists_outcome_of_matchAt? matched
  obtain ⟨captures, added, records⟩ :=
    records_of_mem_outcomes (List.mem_of_head? preferred) after before
  rw [List.append_nil] at added
  rwa [← added] at records

/-- The parts of an occurrence are recorded along with its text. -/
theorem records_of_mem_findAll
    {pattern : Pattern}
    {text : Text}
    {found : Match}
    (member : found ∈ pattern.findAll text) :
    pattern.Records found.before found.text found.after found.captures := by
  obtain ⟨cursor, -, matched⟩ := matchAt?_of_mem_findAll member
  exact records_of_matchAt? matched

/-- Whether no part of a pattern has a name. -/
def isPlain : Pattern → Bool
  | never => true
  | empty => true
  | char _ => true
  | seq first second => first.isPlain && second.isPlain
  | alt preferred fallback => preferred.isPlain && fallback.isPlain
  | run _ => true
  | boundary => true
  | capture _ _ => false

/-- A pattern without names records nothing. -/
theorem records_iff_of_isPlain
    {pattern : Pattern}
    {before text after : Text}
    {captures : List Capture}
    (plain : pattern.isPlain = true) :
    pattern.Records before text after captures ↔
      pattern.Takes before text after ∧ captures = [] := by
  induction pattern generalizing before text after captures with
  | never => simp [Records, Takes]
  | empty => exact Iff.rfl
  | char cls => exact Iff.rfl
  | seq first second ihFirst ihSecond =>
      rw [isPlain, Bool.and_eq_true] at plain
      constructor
      · rintro ⟨head, tail, early, late, whole, rfl, first, second⟩
        obtain ⟨takesHead, rfl⟩ := (ihFirst plain.1).1 first
        obtain ⟨takesTail, rfl⟩ := (ihSecond plain.2).1 second
        exact ⟨⟨head, tail, whole, takesHead, takesTail⟩, rfl⟩
      · rintro ⟨⟨head, tail, whole, takesHead, takesTail⟩, rfl⟩
        exact ⟨head, tail, [], [], whole, rfl, (ihFirst plain.1).2 ⟨takesHead, rfl⟩,
          (ihSecond plain.2).2 ⟨takesTail, rfl⟩⟩
  | alt preferred fallback ihPreferred ihFallback =>
      rw [isPlain, Bool.and_eq_true] at plain
      rw [Records, Takes, ihPreferred plain.1, ihFallback plain.2, or_and_right]
  | run cls => exact Iff.rfl
  | boundary => exact Iff.rfl
  | capture slot body => simp [isPlain] at plain

section Derived

variable {before text after : Text} {captures : List Capture}

theorem records_append {first second : Pattern} :
    (first ++ second).Records before text after captures ↔
      ∃ head tail early late, text = head ++ tail ∧ captures = late ++ early ∧
        first.Records before head (tail ++ after) early ∧
          second.Records (head.reverse ++ before) tail after late :=
  Iff.rfl

theorem records_capture {slot : Slot} {body : Pattern} (plain : body.isPlain = true) :
    (capture slot body).Records before text after captures ↔
      body.Takes before text after ∧ captures = [.around slot before text after] := by
  constructor
  · rintro ⟨inner, rfl, records⟩
    obtain ⟨takes, rfl⟩ := (records_iff_of_isPlain plain).1 records
    exact ⟨takes, rfl⟩
  · rintro ⟨takes, rfl⟩
    exact ⟨[], rfl, (records_iff_of_isPlain plain).2 ⟨takes, rfl⟩⟩

/-- What comes before a part without names records all there is to record. -/
theorem records_append_plain {first second : Pattern} (plain : second.isPlain = true) :
    (first ++ second).Records before text after captures ↔
      ∃ head tail, text = head ++ tail ∧ first.Records before head (tail ++ after) captures ∧
        second.Takes (head.reverse ++ before) tail after := by
  constructor
  · rintro ⟨head, tail, early, late, whole, rfl, recordsHead, recordsTail⟩
    obtain ⟨takes, rfl⟩ := (records_iff_of_isPlain plain).1 recordsTail
    exact ⟨head, tail, whole, recordsHead, takes⟩
  · rintro ⟨head, tail, whole, recordsHead, takes⟩
    exact ⟨head, tail, captures, [], whole, rfl, recordsHead,
      (records_iff_of_isPlain plain).2 ⟨takes, rfl⟩⟩

/-- What comes after a part without names records all there is to record. -/
theorem records_plain_append {first second : Pattern} (plain : first.isPlain = true) :
    (first ++ second).Records before text after captures ↔
      ∃ head tail, text = head ++ tail ∧ first.Takes before head (tail ++ after) ∧
        second.Records (head.reverse ++ before) tail after captures := by
  constructor
  · rintro ⟨head, tail, early, late, whole, rfl, recordsHead, recordsTail⟩
    obtain ⟨takes, rfl⟩ := (records_iff_of_isPlain plain).1 recordsHead
    exact ⟨head, tail, whole, takes, by rwa [List.append_nil]⟩
  · rintro ⟨head, tail, whole, takes, recordsTail⟩
    exact ⟨head, tail, [], captures, whole, by rw [List.append_nil],
      (records_iff_of_isPlain plain).2 ⟨takes, rfl⟩, recordsTail⟩

theorem records_opt {pattern : Pattern} :
    (opt pattern).Records before text after captures ↔
      pattern.Records before text after captures ∨ (text = [] ∧ captures = []) :=
  Iff.rfl

theorem records_bounded {body : Pattern} :
    (bounded body).Records before text after captures ↔
      Cursor.atBoundary ⟨before, text ++ after⟩ = true ∧
        body.Records before text after captures ∧
          Cursor.atBoundary ⟨text.reverse ++ before, after⟩ = true := by
  rw [bounded, records_append_plain rfl]
  constructor
  · rintro ⟨_, _, rfl, records, rfl, closes⟩
    obtain ⟨_, _, rfl, ⟨rfl, opens⟩, records⟩ := (records_plain_append rfl).1 records
    exact ⟨by simpa using opens, by simpa using records, by simpa using closes⟩
  · rintro ⟨opens, records, closes⟩
    refine ⟨text, [], by simp, (records_plain_append rfl).2 ⟨[], text, rfl, ⟨rfl, ?_⟩, ?_⟩, rfl,
      closes⟩
    · simpa using opens
    · simpa using records

end Derived

end Pattern
end SearchPhrase
