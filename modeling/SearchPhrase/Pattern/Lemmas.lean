import SearchPhrase.Pattern.Search

/-!
# What patterns and searches do

A pattern only moves forward through a text.  A search finds occurrences at places of the text,
passes over no place that has one before the leftmost, and cuts the text into pieces that make it up
again.
-/

namespace SearchPhrase

namespace Cursor

/-- A place lies at or after another one in the same text. -/
def Reaches (start stop : Cursor) : Prop :=
  ∃ text, start.after = text ++ stop.after ∧ stop.before = text.reverse ++ start.before

@[refl] theorem Reaches.refl (cursor : Cursor) : cursor.Reaches cursor :=
  ⟨[], rfl, rfl⟩

theorem Reaches.trans {start middle stop : Cursor} (first : start.Reaches middle)
    (second : middle.Reaches stop) : start.Reaches stop := by
  obtain ⟨text, after, before⟩ := first
  obtain ⟨more, after', before'⟩ := second
  exact ⟨text ++ more, by simp [after, after'], by simp [before, before']⟩

/-- There is no more text after a later place. -/
theorem Reaches.length_after_le {start stop : Cursor} (reaches : start.Reaches stop) :
    stop.after.length ≤ start.after.length := by
  obtain ⟨text, after, -⟩ := reaches
  rw [after, List.length_append]
  exact Nat.le_add_left _ _

/-- The text up to a later place continues with what lies after that place. -/
theorem Reaches.textTo_append {start stop : Cursor} (reaches : start.Reaches stop) :
    start.textTo stop ++ stop.after = start.after := by
  obtain ⟨text, after, -⟩ := reaches
  simp [textTo, after]

theorem Reaches.reverse_textTo_append {start stop : Cursor} (reaches : start.Reaches stop) :
    (start.textTo stop).reverse ++ start.before = stop.before := by
  obtain ⟨text, after, before⟩ := reaches
  simp [textTo, after, before]

theorem step?_eq_some_iff {cls : CharClass} {start stop : Cursor} :
    start.step? cls = some stop ↔
      ∃ c, start.after = c :: stop.after ∧ stop.before = c :: start.before ∧
        cls.accepts c = true := by
  obtain ⟨before, _ | ⟨c, rest⟩⟩ := start
  · simp [step?]
  · obtain ⟨stopBefore, stopAfter⟩ := stop
    rw [step?]
    constructor
    · intro step
      split at step
      · next accepted =>
          cases step
          exact ⟨c, rfl, rfl, accepted⟩
      · simp at step
    · rintro ⟨d, whole, rfl, accepted⟩
      obtain ⟨rfl, rfl⟩ := List.cons.inj whole
      rw [if_pos accepted]

theorem reaches_of_step? {cls : CharClass} {start stop : Cursor}
    (step : start.step? cls = some stop) : start.Reaches stop := by
  obtain ⟨c, after, before, -⟩ := step?_eq_some_iff.1 step
  exact ⟨[c], after, before⟩

/-- A run over some of a text takes nothing of it, or its first character and some of the rest. -/
theorem eq_or_exists_tail
    {cls : CharClass}
    {d : Char}
    {rest text before stopBefore stopAfter : Text}
    (whole : d :: rest = text ++ stopAfter)
    (back : stopBefore = text.reverse ++ before)
    (accepted : ∀ c ∈ text, cls.accepts c = true) :
    (stopBefore = before ∧ stopAfter = d :: rest) ∨
      (cls.accepts d = true ∧ ∃ tail, rest = tail ++ stopAfter ∧
        stopBefore = tail.reverse ++ d :: before ∧ ∀ c ∈ tail, cls.accepts c = true) := by
  cases text with
  | nil => exact .inl ⟨back, by simpa using whole.symm⟩
  | cons c tail =>
      obtain ⟨rfl, same⟩ := List.cons.inj whole
      refine .inr ⟨accepted d (by simp), tail, same, by simpa using back, ?_⟩
      intro e member
      exact accepted e (List.mem_cons_of_mem _ member)

theorem mem_runEndsBefore_iff
    {cls : CharClass}
    {nearer : List Cursor}
    {before after : Text}
    {stop : Cursor} :
    stop ∈ runEndsBefore cls nearer before after ↔
      stop ∈ nearer ∨
        ∃ text, after = text ++ stop.after ∧ stop.before = text.reverse ++ before ∧
          ∀ c ∈ text, cls.accepts c = true := by
  induction after generalizing nearer before with
  | nil =>
      obtain ⟨stopBefore, stopAfter⟩ := stop
      simp only [runEndsBefore, List.mem_cons, List.nil_eq, List.append_eq_nil_iff, mk.injEq]
      constructor
      · rintro (⟨rfl, rfl⟩ | known)
        · exact .inr ⟨[], ⟨rfl, rfl⟩, rfl, by simp⟩
        · exact .inl known
      · rintro (known | ⟨text, ⟨rfl, rfl⟩, rfl, -⟩)
        · exact .inr known
        · exact .inl ⟨rfl, rfl⟩
  | cons d rest ih =>
      obtain ⟨stopBefore, stopAfter⟩ := stop
      rw [runEndsBefore]
      split
      · next accepted =>
          rw [ih, List.mem_cons, mk.injEq]
          constructor
          · rintro ((⟨rfl, rfl⟩ | known) | ⟨tail, same, back, all⟩)
            · exact .inr ⟨[], rfl, rfl, by simp⟩
            · exact .inl known
            · refine .inr ⟨d :: tail, by simp [same], by simpa using back, ?_⟩
              simpa [accepted] using all
          · rintro (known | ⟨text, whole, back, all⟩)
            · exact .inl (.inr known)
            · rcases eq_or_exists_tail whole back all with same | ⟨-, tail, same, back, all⟩
              · exact .inl (.inl same)
              · exact .inr ⟨tail, same, back, all⟩
      · next refused =>
          rw [List.mem_cons, mk.injEq]
          constructor
          · rintro (⟨rfl, rfl⟩ | known)
            · exact .inr ⟨[], rfl, rfl, by simp⟩
            · exact .inl known
          · rintro (known | ⟨text, whole, back, all⟩)
            · exact .inr known
            · rcases eq_or_exists_tail whole back all with same | ⟨accepted, -⟩
              · exact .inl same
              · exact absurd accepted refused

/-- A run may end wherever the class accepts everything up to there. -/
theorem mem_runEnds_iff {cls : CharClass} {start stop : Cursor} :
    stop ∈ start.runEnds cls ↔
      ∃ text, start.after = text ++ stop.after ∧ stop.before = text.reverse ++ start.before ∧
        ∀ c ∈ text, cls.accepts c = true := by
  rw [runEnds, mem_runEndsBefore_iff]
  simp

theorem reaches_of_mem_runEnds {cls : CharClass} {start stop : Cursor}
    (member : stop ∈ start.runEnds cls) : start.Reaches stop := by
  obtain ⟨text, after, before, -⟩ := mem_runEnds_iff.1 member
  exact ⟨text, after, before⟩

end Cursor

namespace Pattern

/-- Every outcome of a pattern lies at or after the place where the pattern was tried. -/
theorem reaches_of_mem_outcomes {pattern : Pattern} {start stop : Outcome}
    (member : stop ∈ pattern.outcomes start) : start.cursor.Reaches stop.cursor := by
  induction pattern generalizing start stop with
  | never => exact absurd member List.not_mem_nil
  | empty => rw [List.mem_singleton.1 member]
  | char cls =>
      obtain ⟨cursor, step, rfl⟩ := Option.map_eq_some_iff.1 (Option.mem_toList.1 member)
      exact Cursor.reaches_of_step? step
  | seq first second ihFirst ihSecond =>
      obtain ⟨middle, taken, rest⟩ := List.mem_flatMap.1 member
      exact (ihFirst taken).trans (ihSecond rest)
  | alt preferred fallback ihPreferred ihFallback =>
      rcases List.mem_append.1 member with member | member
      · exact ihPreferred member
      · exact ihFallback member
  | run cls =>
      obtain ⟨cursor, known, rfl⟩ := List.mem_map.1 member
      exact Cursor.reaches_of_mem_runEnds known
  | boundary =>
      rw [outcomes] at member
      split at member
      · rw [List.mem_singleton.1 member]
      · exact absurd member List.not_mem_nil
  | capture slot body ih =>
      obtain ⟨inner, known, rfl⟩ := List.mem_map.1 member
      exact (ih known : start.cursor.Reaches inner.cursor)

/-- The occurrence at a place is what the preferred outcome leads past, unless that is nothing. -/
theorem matchAt?_eq_some_iff {pattern : Pattern} {cursor : Cursor} {found : Match} :
    pattern.matchAt? cursor = some found ↔
      ∃ stop, (pattern.outcomes ⟨cursor, []⟩).head? = some stop ∧
        cursor.textTo stop.cursor ≠ [] ∧
          found = ⟨cursor.before, cursor.textTo stop.cursor, stop.cursor.after, stop.captures⟩ := by
  rw [matchAt?]
  cases pattern.outcomes ⟨cursor, []⟩ with
  | nil => simp
  | cons outcome others =>
      simp only [List.head?_cons, Option.some.injEq, exists_eq_left']
      cases cursor.textTo outcome.cursor with
      | nil => simp
      | cons c text => simp [eq_comm]

/-- The occurrence at a place as a cut of the text after that place. -/
theorem exists_outcome_of_matchAt? {pattern : Pattern} {cursor : Cursor} {found : Match}
    (matched : pattern.matchAt? cursor = some found) :
    ∃ stop text, (pattern.outcomes ⟨cursor, []⟩).head? = some stop ∧ text ≠ [] ∧
      cursor.after = text ++ stop.cursor.after ∧
        stop.cursor.before = text.reverse ++ cursor.before ∧
          found = ⟨cursor.before, text, stop.cursor.after, stop.captures⟩ := by
  obtain ⟨stop, preferred, nonempty, rfl⟩ := matchAt?_eq_some_iff.1 matched
  have reaches : cursor.Reaches stop.cursor :=
    reaches_of_mem_outcomes (List.mem_of_head? preferred)
  exact ⟨stop, _, preferred, nonempty, reaches.textTo_append.symm,
    reaches.reverse_textTo_append.symm, rfl⟩

/-- An occurrence at a place is a nonempty text at the start of what comes after the place. -/
theorem eq_of_matchAt? {pattern : Pattern} {cursor : Cursor} {found : Match}
    (matched : pattern.matchAt? cursor = some found) :
    found.before = cursor.before ∧ found.text ++ found.after = cursor.after ∧ found.text ≠ [] := by
  obtain ⟨stop, text, -, nonempty, after, -, rfl⟩ := exists_outcome_of_matchAt? matched
  exact ⟨rfl, after.symm, nonempty⟩

/-- An occurrence takes the character at its place and some of the text after it. -/
theorem exists_tail_of_matchAt? {pattern : Pattern} {before rest : Text} {c : Char} {found : Match}
    (matched : pattern.matchAt? ⟨before, c :: rest⟩ = some found) :
    ∃ tail, found.text = c :: tail ∧ rest = tail ++ found.after := by
  obtain ⟨-, whole, nonempty⟩ := eq_of_matchAt? matched
  obtain ⟨d, tail, taken⟩ := List.exists_cons_of_ne_nil nonempty
  rw [taken, List.cons_append] at whole
  obtain ⟨rfl, rfl⟩ := List.cons.inj whole
  exact ⟨tail, taken, rfl⟩

theorem flatMap_piecesFrom (pattern : Pattern) (skip : Nat) (before text : Text) :
    (pattern.piecesFrom skip before text).flatMap (pieceText Match.text) = text.drop skip := by
  induction text generalizing skip before with
  | nil => simp [piecesFrom]
  | cons c rest ih =>
      match skip with
      | skip + 1 => rw [piecesFrom, ih, List.drop_succ_cons]
      | 0 =>
          rw [piecesFrom]
          split
          · next found matched =>
              obtain ⟨tail, taken, rfl⟩ := exists_tail_of_matchAt? matched
              rw [List.flatMap_cons, ih, pieceText, taken]
              simp
          · rw [List.flatMap_cons, ih]
            rfl

/-- The pieces of a text make it up again. -/
@[simp] theorem replace_text (pattern : Pattern) (text : Text) :
    pattern.replace Match.text text = text :=
  flatMap_piecesFrom pattern 0 [] text

theorem mem_filterMap_occurrence?_iff {pieces : List Piece} {found : Match} :
    found ∈ pieces.filterMap occurrence? ↔ .found found ∈ pieces := by
  rw [List.mem_filterMap]
  constructor
  · rintro ⟨_ | occurrence, member, same⟩
    · cases same
    · cases same
      exact member
  · exact fun member => ⟨_, member, rfl⟩

/-- What a search finds is what it lists among the pieces. -/
theorem mem_findAll_iff {pattern : Pattern} {text : Text} {found : Match} :
    found ∈ pattern.findAll text ↔ .found found ∈ pattern.pieces text :=
  mem_filterMap_occurrence?_iff

/-- A replacement depends on the substitutes for the occurrences in the text only. -/
theorem replace_congr {pattern : Pattern} {substitute substitute' : Match → Text} {text : Text}
    (same : ∀ found ∈ pattern.findAll text, substitute found = substitute' found) :
    pattern.replace substitute text = pattern.replace substitute' text := by
  rw [replace, replace, List.flatMap_def, List.flatMap_def]
  refine congrArg List.flatten (List.map_congr_left fun piece member => ?_)
  cases piece with
  | plain c => rfl
  | found occurrence => exact same occurrence (mem_findAll_iff.2 member)

/-- Where each occurrence is its own substitute, nothing changes. -/
theorem replace_eq_self_of_forall {pattern : Pattern} {substitute : Match → Text} {text : Text}
    (each : ∀ found ∈ pattern.findAll text, substitute found = found.text) :
    pattern.replace substitute text = text :=
  (replace_congr each).trans (replace_text pattern text)

/-- Where nothing of a pattern occurs, nothing is replaced. -/
theorem replace_eq_self {pattern : Pattern} {text : Text} (absent : pattern.findAll text = [])
    (substitute : Match → Text) : pattern.replace substitute text = text :=
  replace_eq_self_of_forall (by simp [absent])

theorem matchAt?_of_mem_piecesFrom {pattern : Pattern} {skip : Nat} {before text : Text}
    {found : Match} (member : .found found ∈ pattern.piecesFrom skip before text) :
    ∃ cursor : Cursor, cursor.whole = before.reverse ++ text ∧
      pattern.matchAt? cursor = some found := by
  induction text generalizing skip before with
  | nil => simp [piecesFrom] at member
  | cons c rest ih =>
      rw [show before.reverse ++ c :: rest = (c :: before).reverse ++ rest by simp]
      match skip with
      | skip + 1 =>
          rw [piecesFrom] at member
          exact ih member
      | 0 =>
          rw [piecesFrom] at member
          split at member
          · next other matched =>
              rcases List.mem_cons.1 member with same | member
              · cases same
                exact ⟨_, by simp [Cursor.whole], matched⟩
              · exact ih member
          · exact ih (by simpa using member)

/-- Every occurrence that a search finds is one at some place of the text. -/
theorem matchAt?_of_mem_findAll {pattern : Pattern} {text : Text} {found : Match}
    (member : found ∈ pattern.findAll text) :
    ∃ cursor : Cursor, cursor.whole = text ∧ pattern.matchAt? cursor = some found :=
  matchAt?_of_mem_piecesFrom (mem_findAll_iff.1 member)

/-- An occurrence is a nonempty part of the text, between what lies before and after it. -/
theorem whole_of_mem_findAll {pattern : Pattern} {text : Text} {found : Match}
    (member : found ∈ pattern.findAll text) :
    found.before.reverse ++ found.text ++ found.after = text ∧ found.text ≠ [] := by
  obtain ⟨cursor, rfl, matched⟩ := matchAt?_of_mem_findAll member
  obtain ⟨before, after, nonempty⟩ := eq_of_matchAt? matched
  exact ⟨by rw [before, List.append_assoc, after, Cursor.whole], nonempty⟩

/-- There is no occurrence at the end of a text. -/
theorem matchAt?_nil (pattern : Pattern) (before : Text) :
    pattern.matchAt? ⟨before, []⟩ = none := by
  cases matched : pattern.matchAt? ⟨before, []⟩ with
  | none => rfl
  | some found =>
      obtain ⟨-, whole, nonempty⟩ := eq_of_matchAt? matched
      exact absurd (List.append_eq_nil_iff.1 whole).1 nonempty

/-- The first piece that is an occurrence stands at the first place that has one. -/
theorem matchAt?_eq_none_of_piecesFrom {pattern : Pattern} {before text start stop : Text}
    (whole : start ++ stop = text)
    (earliest : ∀ found ∈ ((pattern.piecesFrom 0 before text).filterMap occurrence?).head?,
      (start.reverse ++ before).length < found.before.length) :
    pattern.matchAt? ⟨start.reverse ++ before, stop⟩ = none := by
  induction text generalizing before start with
  | nil =>
      obtain ⟨rfl, rfl⟩ := List.append_eq_nil_iff.1 whole
      exact matchAt?_nil pattern _
  | cons c rest ih =>
      rw [piecesFrom] at earliest
      cases matched : pattern.matchAt? ⟨before, c :: rest⟩ with
      | some found =>
          have late := earliest found (by simp [matched, occurrence?])
          have same : found.before = before := (eq_of_matchAt? matched).1
          rw [same, List.length_append] at late
          omega
      | none =>
          cases start with
          | nil =>
              rw [List.nil_append] at whole
              rw [whole]
              exact matched
          | cons d start =>
              obtain ⟨rfl, tail⟩ := List.cons.inj whole
              have later := @ih (d :: before) start tail fun found first => by
                have late := earliest found (by
                  simpa [matched, occurrence?, List.findSome?_cons] using first)
                simpa using late
              simpa using later

/-- No place before the leftmost occurrence has one. -/
theorem matchAt?_eq_none_of_find? {pattern : Pattern} {text : Text} {found : Match}
    (leftmost : pattern.find? text = some found) {cursor : Cursor} (whole : cursor.whole = text)
    (earlier : cursor.before.length < found.before.length) : pattern.matchAt? cursor = none := by
  obtain ⟨before, after⟩ := cursor
  have none := @matchAt?_eq_none_of_piecesFrom pattern [] text before.reverse after whole
    fun other first => by
      have same : some other = some found := first.symm.trans leftmost
      cases same
      simpa using earlier
  simpa using none

end Pattern
end SearchPhrase
