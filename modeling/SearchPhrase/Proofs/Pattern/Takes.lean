import SearchPhrase.Pattern.Lemmas

/-!
# Texts that a pattern takes

A pattern describes which texts it may take between given surroundings, whatever its order of
preference.  The outcomes of a pattern are exactly these texts, so that the text of an occurrence is
one of them.
-/

namespace SearchPhrase
namespace Pattern

/-- Whether a pattern may take a text that stands between others, the one before it back to
front. -/
def Takes : Pattern → Text → Text → Text → Prop
  | never, _, _, _ => False
  | empty, _, text, _ => text = []
  | char cls, _, text, _ => ∃ c, text = [c] ∧ cls.accepts c = true
  | seq first second, before, text, after =>
      ∃ head tail, text = head ++ tail ∧ first.Takes before head (tail ++ after) ∧
        second.Takes (head.reverse ++ before) tail after
  | alt preferred fallback, before, text, after =>
      preferred.Takes before text after ∨ fallback.Takes before text after
  | run cls, _, text, _ => ∀ c ∈ text, cls.accepts c = true
  | boundary, before, text, after => text = [] ∧ Cursor.atBoundary ⟨before, after⟩ = true
  | capture _ body, before, text, after => body.Takes before text after

/-- What one part after another leads past is cut where the first part ends. -/
theorem exists_cut_of_mem_outcomes_seq
    {first second : Pattern}
    {start stop : Outcome}
    {text : Text}
    (member : stop ∈ (seq first second).outcomes start)
    (after : start.cursor.after = text ++ stop.cursor.after) :
    ∃ middle ∈ first.outcomes start, stop ∈ second.outcomes middle ∧
      ∃ head tail, text = head ++ tail ∧
        start.cursor.after = head ++ middle.cursor.after ∧
        middle.cursor.before = head.reverse ++ start.cursor.before ∧
        middle.cursor.after = tail ++ stop.cursor.after ∧
        stop.cursor.before = tail.reverse ++ middle.cursor.before := by
  obtain ⟨middle, taken, rest⟩ := List.mem_flatMap.1 member
  obtain ⟨head, headAfter, headBefore⟩ := reaches_of_mem_outcomes taken
  obtain ⟨tail, tailAfter, tailBefore⟩ := reaches_of_mem_outcomes rest
  have whole : text = head ++ tail := by
    apply (List.append_left_inj stop.cursor.after).1
    rw [← after, headAfter, tailAfter, List.append_assoc]
  exact ⟨middle, taken, rest, head, tail, whole, headAfter, headBefore, tailAfter, tailBefore⟩

/-- The text between a place and an outcome of a pattern there is one that the pattern takes. -/
theorem takes_of_mem_outcomes
    {pattern : Pattern}
    {start stop : Outcome}
    {text : Text}
    (member : stop ∈ pattern.outcomes start)
    (after : start.cursor.after = text ++ stop.cursor.after)
    (before : stop.cursor.before = text.reverse ++ start.cursor.before) :
    pattern.Takes start.cursor.before text stop.cursor.after := by
  induction pattern generalizing start stop text with
  | never => exact absurd member List.not_mem_nil
  | empty =>
      obtain rfl := List.mem_singleton.1 member
      exact List.self_eq_append_left.1 after
  | char cls =>
      obtain ⟨cursor, step, rfl⟩ := Option.map_eq_some_iff.1 (Option.mem_toList.1 member)
      obtain ⟨c, whole, -, accepted⟩ := Cursor.step?_eq_some_iff.1 step
      refine ⟨c, ?_, accepted⟩
      apply (List.append_left_inj cursor.after).1
      rw [List.singleton_append, ← whole]
      exact after.symm
  | seq first second ihFirst ihSecond =>
      obtain ⟨middle, taken, rest, head, tail, whole, headAfter, headBefore, tailAfter,
        tailBefore⟩ := exists_cut_of_mem_outcomes_seq member after
      refine ⟨head, tail, whole, ?_, ?_⟩
      · have takes := ihFirst taken headAfter headBefore
        rwa [tailAfter] at takes
      · have takes := ihSecond rest tailAfter tailBefore
        rwa [headBefore] at takes
  | alt preferred fallback ihPreferred ihFallback =>
      rcases List.mem_append.1 member with member | member
      · exact .inl (ihPreferred member after before)
      · exact .inr (ihFallback member after before)
  | run cls =>
      obtain ⟨cursor, known, rfl⟩ := List.mem_map.1 member
      obtain ⟨taken, whole, -, accepted⟩ := Cursor.mem_runEnds_iff.1 known
      have same : text = taken := List.append_cancel_right (after.symm.trans whole)
      rwa [same]
  | boundary =>
      rw [outcomes] at member
      split at member
      · next edge =>
          obtain rfl := List.mem_singleton.1 member
          exact ⟨List.self_eq_append_left.1 after, edge⟩
      · exact absurd member List.not_mem_nil
  | capture slot body ih =>
      obtain ⟨inner, known, rfl⟩ := List.mem_map.1 member
      have takes := @ih start inner text known after before
      exact takes

theorem exists_outcome_of_takes
    {pattern : Pattern}
    {before text after : Text}
    (takes : pattern.Takes before text after)
    (captures : List Capture) :
    ∃ stop ∈ pattern.outcomes ⟨⟨before, text ++ after⟩, captures⟩,
      stop.cursor = ⟨text.reverse ++ before, after⟩ := by
  induction pattern generalizing before text after captures with
  | never => exact absurd takes id
  | empty =>
      obtain rfl : text = [] := takes
      exact ⟨_, List.mem_singleton.2 rfl, rfl⟩
  | char cls =>
      obtain ⟨c, rfl, accepted⟩ := takes
      have step : Cursor.step? cls ⟨before, c :: after⟩ = some ⟨c :: before, after⟩ :=
        Cursor.step?_eq_some_iff.2 ⟨c, rfl, rfl, accepted⟩
      refine ⟨⟨⟨c :: before, after⟩, captures⟩, ?_, rfl⟩
      simp [outcomes, step, Outcome.moveTo]
  | seq first second ihFirst ihSecond =>
      obtain ⟨head, tail, rfl, takesHead, takesTail⟩ := takes
      obtain ⟨middle, known, place⟩ := ihFirst takesHead captures
      obtain ⟨cursor, inner⟩ := middle
      obtain rfl : cursor = _ := place
      obtain ⟨stop, reached, place⟩ := ihSecond takesTail inner
      refine ⟨stop, ?_, by simpa using place⟩
      rw [outcomes, List.append_assoc]
      exact List.mem_flatMap.2 ⟨_, known, reached⟩
  | alt preferred fallback ihPreferred ihFallback =>
      rcases takes with takes | takes
      · obtain ⟨stop, known, place⟩ := ihPreferred takes captures
        exact ⟨stop, List.mem_append.2 (.inl known), place⟩
      · obtain ⟨stop, known, place⟩ := ihFallback takes captures
        exact ⟨stop, List.mem_append.2 (.inr known), place⟩
  | run cls =>
      have reached : (⟨text.reverse ++ before, after⟩ : Cursor) ∈
          Cursor.runEnds cls ⟨before, text ++ after⟩ :=
        Cursor.mem_runEnds_iff.2 ⟨text, rfl, rfl, takes⟩
      exact ⟨_, List.mem_map.2 ⟨_, reached, rfl⟩, rfl⟩
  | boundary =>
      obtain ⟨rfl, edge⟩ := takes
      refine ⟨⟨⟨before, after⟩, captures⟩, ?_, rfl⟩
      simp [outcomes, edge]
  | capture slot body ih =>
      obtain ⟨stop, known, place⟩ := ih takes captures
      exact ⟨_, List.mem_map.2 ⟨stop, known, rfl⟩, place⟩

/-- An occurrence at a place is a text that the pattern takes there. -/
theorem takes_of_matchAt?
    {pattern : Pattern}
    {cursor : Cursor}
    {found : Match}
    (matched : pattern.matchAt? cursor = some found) :
    pattern.Takes found.before found.text found.after := by
  obtain ⟨stop, text, preferred, -, after, before, rfl⟩ := exists_outcome_of_matchAt? matched
  exact takes_of_mem_outcomes (List.mem_of_head? preferred) after before

theorem takes_of_mem_findAll
    {pattern : Pattern}
    {text : Text}
    {found : Match}
    (member : found ∈ pattern.findAll text) :
    pattern.Takes found.before found.text found.after := by
  obtain ⟨cursor, -, matched⟩ := matchAt?_of_mem_findAll member
  exact takes_of_matchAt? matched

/-- Texts with the same first part begin alike if the rest of them does. -/
theorem startsWithWord_append_congr
    {after after' : Text}
    (same : Cursor.startsWithWord after = Cursor.startsWithWord after')
    (text : Text) :
    Cursor.startsWithWord (text ++ after) = Cursor.startsWithWord (text ++ after') := by
  cases text with
  | nil => exact same
  | cons c rest => rfl

/-- What a pattern takes depends on what stands around it only in whether words end and begin
there. -/
theorem takes_congr
    {pattern : Pattern}
    {before before' text after after' : Text}
    (same : Cursor.startsWithWord before = Cursor.startsWithWord before')
    (same' : Cursor.startsWithWord after = Cursor.startsWithWord after')
    (takes : pattern.Takes before text after) :
    pattern.Takes before' text after' := by
  induction pattern generalizing before before' text after after' with
  | never | empty | char | run => exact takes
  | seq first second ihFirst ihSecond =>
      obtain ⟨head, tail, rfl, takesHead, takesTail⟩ := takes
      refine ⟨head, tail, rfl, ?_, ?_⟩
      · exact ihFirst same (startsWithWord_append_congr same' tail) takesHead
      · exact ihSecond (startsWithWord_append_congr same head.reverse) same' takesTail
  | alt preferred fallback ihPreferred ihFallback =>
      exact takes.imp (ihPreferred same same') (ihFallback same same')
  | boundary =>
      obtain ⟨rfl, edge⟩ := takes
      exact ⟨rfl, by rwa [Cursor.atBoundary, ← same, ← same']⟩
  | capture slot body ih => exact ih same same' takes

section Derived

variable {before text after : Text}

@[simp] theorem takes_char {cls : CharClass} :
    (char cls).Takes before text after ↔ ∃ c, text = [c] ∧ cls.accepts c = true :=
  Iff.rfl

@[simp] theorem takes_run {cls : CharClass} :
    (run cls).Takes before text after ↔ ∀ c ∈ text, cls.accepts c = true :=
  Iff.rfl

@[simp] theorem takes_capture {slot : Slot} {body : Pattern} :
    (capture slot body).Takes before text after ↔ body.Takes before text after :=
  Iff.rfl

@[simp] theorem takes_alt {preferred fallback : Pattern} :
    (alt preferred fallback).Takes before text after ↔
      preferred.Takes before text after ∨ fallback.Takes before text after :=
  Iff.rfl

@[simp] theorem takes_append {first second : Pattern} :
    (first ++ second).Takes before text after ↔
      ∃ head tail, text = head ++ tail ∧ first.Takes before head (tail ++ after) ∧
        second.Takes (head.reverse ++ before) tail after :=
  Iff.rfl

@[simp] theorem takes_only {c : Char} : (only c).Takes before text after ↔ text = [c] := by
  simp [only, CharClass.accepts]

@[simp] theorem takes_literal {phrase : String} :
    (literal phrase).Takes before text after ↔ text = phrase.toList := by
  unfold literal
  induction phrase.toList generalizing before text with
  | nil => exact Iff.rfl
  | cons c rest ih =>
      rw [List.foldr_cons]
      constructor
      · rintro ⟨head, tail, rfl, first, others⟩
        rw [takes_only.1 first, ih.1 others, List.singleton_append]
      · rintro rfl
        exact ⟨[c], rest, rfl, takes_only.2 rfl, ih.2 rfl⟩

theorem takes_anyOf {patterns : List Pattern} :
    (anyOf patterns).Takes before text after ↔
      ∃ pattern ∈ patterns, pattern.Takes before text after := by
  induction patterns with
  | nil => simp [anyOf, Takes]
  | cons pattern patterns ih =>
      cases patterns with
      | nil => simp [anyOf]
      | cons next patterns =>
          simp only [anyOf, takes_alt, ih, List.mem_cons, or_and_right, exists_or,
            exists_eq_left]

@[simp] theorem takes_oneOf {phrases : List String} :
    (oneOf phrases).Takes before text after ↔ ∃ phrase ∈ phrases, text = phrase.toList := by
  rw [oneOf, takes_anyOf]
  constructor
  · rintro ⟨pattern, member, takes⟩
    obtain ⟨phrase, known, rfl⟩ := List.mem_map.1 member
    exact ⟨phrase, known, takes_literal.1 takes⟩
  · rintro ⟨phrase, known, same⟩
    exact ⟨_, List.mem_map.2 ⟨phrase, known, rfl⟩, takes_literal.2 same⟩

@[simp] theorem takes_opt {pattern : Pattern} :
    (opt pattern).Takes before text after ↔ pattern.Takes before text after ∨ text = [] :=
  Iff.rfl

@[simp] theorem takes_gap : gap.Takes before text after ↔ Text.isBlank text = true := by
  simp [gap, Text.isBlank_iff, CharClass.accepts]

@[simp] theorem takes_run1 {cls : CharClass} :
    (run1 cls).Takes before text after ↔ text ≠ [] ∧ ∀ c ∈ text, cls.accepts c = true := by
  cases text with
  | nil => simp [run1]
  | cons c rest =>
      simp only [run1, takes_append, takes_char, takes_run, ne_eq, reduceCtorEq, not_false_eq_true,
        true_and, List.forall_mem_cons]
      constructor
      · rintro ⟨head, tail, whole, ⟨d, rfl, accepted⟩, others⟩
        obtain ⟨rfl, rfl⟩ := List.cons.inj whole
        exact ⟨accepted, others⟩
      · rintro ⟨accepted, others⟩
        exact ⟨[c], rest, rfl, ⟨c, rfl, accepted⟩, others⟩

@[simp] theorem takes_blank :
    blank.Takes before text after ↔ text ≠ [] ∧ Text.isBlank text = true := by
  simp [blank, Text.isBlank_iff, CharClass.accepts]

@[simp] theorem takes_boundary :
    boundary.Takes before text after ↔
      text = [] ∧ Cursor.atBoundary ⟨before, after⟩ = true :=
  Iff.rfl

@[simp] theorem takes_bounded {body : Pattern} :
    (bounded body).Takes before text after ↔
      Cursor.atBoundary ⟨before, text ++ after⟩ = true ∧ body.Takes before text after ∧
        Cursor.atBoundary ⟨text.reverse ++ before, after⟩ = true := by
  constructor
  · rintro ⟨-, _, rfl, ⟨opening, middle, rfl, ⟨rfl, opens⟩, taken⟩, rfl, closes⟩
    exact ⟨by simpa using opens, by simpa using taken, by simpa using closes⟩
  · rintro ⟨opens, taken, closes⟩
    refine ⟨text, [], by simp, ⟨[], text, rfl, ⟨rfl, ?_⟩, ?_⟩, rfl, closes⟩
    · simpa using opens
    · simpa using taken

end Derived

end Pattern
end SearchPhrase
