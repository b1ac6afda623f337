import SearchPhrase.Proofs.Phrase.Units
import SearchPhrase.Proofs.Phrase.YearForms

/-!
# Years beside signs and units

Four digits with a dollar sign before them or a unit of distance after them may well be an amount,
and no year by itself is read from them.  A leading word and the mark of a range tell that a year is
meant all the same, so that a sign may stand before the first of two years, and a unit after the
second one or after a year with a leading word.
-/

namespace SearchPhrase

open Figure Pattern Text Unicode

namespace Stretch

variable {text : Text} (token : Stretch text)

/-- Whether a dollar sign stands right before a stretch, white space aside. -/
def followsSign : Bool :=
  (trimStart token.before.reverse).head? == some '$'

/-- Whether a unit of distance stands right after a stretch, white space aside. -/
def precedesUnit : Bool :=
  startsWithUnit token.after

variable {token}

/-- No sign stands right before a stretch if something else does. -/
theorem followsSign_eq_false
    {front stem gap : Text}
    (before : token.before = front ++ (stem ++ gap))
    (blank : isBlank gap = true)
    (ends : ∃ c ∈ stem.getLast?, isWhiteSpace c = false ∧ c ≠ '$') :
    token.followsSign = false := by
  obtain ⟨c, last, visible, other⟩ := ends
  obtain ⟨init, rfl⟩ := List.getLast?_eq_some_iff.1 last
  have spaces : ∀ c ∈ gap.reverse, isWhiteSpace c = true := by
    intro c member
    exact isBlank_iff.1 blank c (List.mem_reverse.1 member)
  have order : token.before.reverse = gap.reverse ++ c :: (init.reverse ++ front.reverse) := by
    simp [before]
  rw [followsSign, order, trimStart, List.dropWhile_append_of_pos spaces,
    List.dropWhile_cons_of_neg (by simp [visible])]
  simpa using other

end Stretch

namespace Years

/-- A year lies past what holds no digit. -/
theorem IsYear.exists_past
    {front rest year head tail : Text}
    (isYear : IsYear year)
    (free : ∀ c ∈ front, Unicode.isWordDigit c = false)
    (same : head ++ (year ++ tail) = front ++ rest) :
    ∃ part, head = front ++ part ∧ part ++ (year ++ tail) = rest :=
  exists_past_of_startsWithDigit (isYear.startsWithDigit tail) free same

/-- A year before which digits begin lies before what follows them. -/
theorem IsYear.exists_before
    {digits rest year tail : Text}
    (isYear : IsYear year)
    (stops : ∀ c ∈ rest.head?, Unicode.isWordDigit c = false)
    (same : year ++ tail = digits ++ rest) :
    ∃ part, digits = year ++ part ∧ tail = part ++ rest := by
  rcases List.append_eq_append_iff.1 same with ⟨part, whole, later⟩ | ⟨part, whole, later⟩
  · exact ⟨part, whole, later⟩
  · cases part with
    | nil => exact ⟨[], by simpa using whole.symm, by simpa using later.symm⟩
    | cons c part =>
        -- The year would go on into what follows the digits.
        have digit := isYear.isWordDigit (by simp [whole] : c ∈ year)
        rw [stops c (by simp [later])] at digit
        cases digit

/-- A year in a year with no digit after it is that year. -/
theorem IsYear.eq_of_within
    {digits rest year head tail : Text}
    (isYear : IsYear digits)
    (free : ∀ c ∈ rest, Unicode.isWordDigit c = false)
    (isYear' : IsYear year)
    (same : head ++ (year ++ tail) = digits ++ rest) :
    head = [] ∧ year = digits ∧ tail = rest := by
  rcases List.append_eq_append_iff.1 same with ⟨part, whole, later⟩ | ⟨part, rfl, later⟩
  · have stops : ∀ c ∈ rest.head?, Unicode.isWordDigit c = false := fun c first =>
      free c (List.mem_of_head? first)
    obtain ⟨others, rfl, rfl⟩ := isYear'.exists_before stops later
    have lengths := congrArg List.length whole
    rw [List.length_append, List.length_append, isYear.length_eq, isYear'.length_eq] at lengths
    obtain rfl : head = [] := List.length_eq_zero_iff.1 (by omega)
    obtain rfl : others = [] := List.length_eq_zero_iff.1 (by omega)
    exact ⟨rfl, by simpa using whole.symm, rfl⟩
  · obtain ⟨c, others, shape⟩ := List.exists_cons_of_ne_nil isYear'.ne_nil
    have digit := isYear'.isWordDigit (by simp [shape] : c ∈ year)
    rw [free c (by simp [later, shape])] at digit
    cases digit

/-- The years in two years with something between them are these two. -/
theorem IsYear.eq_or_eq_of_within
    {first middle second rest year head tail : Text}
    (isFirst : IsYear first)
    (free : ∀ c ∈ middle, Unicode.isWordDigit c = false)
    (nonempty : middle ≠ [])
    (isSecond : IsYear second)
    (free' : ∀ c ∈ rest, Unicode.isWordDigit c = false)
    (isYear : IsYear year)
    (same : head ++ (year ++ tail) = first ++ (middle ++ (second ++ rest))) :
    (head = [] ∧ year = first ∧ tail = middle ++ (second ++ rest)) ∨
      (head = first ++ middle ∧ year = second ∧ tail = rest) := by
  rcases List.append_eq_append_iff.1 same with ⟨part, whole, later⟩ | ⟨part, rfl, later⟩
  · left
    have stops : ∀ c ∈ (middle ++ (second ++ rest)).head?, Unicode.isWordDigit c = false := by
      obtain ⟨d, others, rfl⟩ := List.exists_cons_of_ne_nil nonempty
      simpa using free d List.mem_cons_self
    obtain ⟨others, rfl, rfl⟩ := isYear.exists_before stops later
    have within : head ++ (year ++ others) = first ++ [] := by rw [List.append_nil, whole]
    obtain ⟨rfl, equal, rfl⟩ := isFirst.eq_of_within (by simp) isYear within
    exact ⟨rfl, equal, rfl⟩
  · right
    obtain ⟨part, rfl, within⟩ := isYear.exists_past free later.symm
    obtain ⟨rfl, equal, rfl⟩ := isSecond.eq_of_within free' isYear within
    exact ⟨by simp, equal, rfl⟩

/-- What marks a range between two years. -/
inductive IsJoint : Text → Prop where
  /-- A mark with white space around it. -/
  | mark {gap mark gap' : Text} (blank : isBlank gap = true)
      (known : mark = ['-'] ∨ mark = ['t', 'o']) (blank' : isBlank gap' = true) :
      IsJoint (gap ++ (mark ++ gap'))

namespace IsJoint

variable {joint : Text}

theorem ne_nil (isJoint : IsJoint joint) : joint ≠ [] := by
  obtain ⟨-, rfl | rfl, -⟩ := isJoint <;> simp

theorem isWordDigit
    {c : Char}
    (isJoint : IsJoint joint)
    (member : c ∈ joint) :
    Unicode.isWordDigit c = false := by
  obtain ⟨blank, known, blank'⟩ := isJoint
  exact isWordDigit_of_mem_mark blank known blank' member

/-- No unit of distance begins with the mark of a range. -/
theorem startsWithUnit_append
    (isJoint : IsJoint joint)
    (rest : Text) :
    startsWithUnit (joint ++ rest) = false := by
  obtain ⟨blank, rfl | rfl, -⟩ := isJoint
  · simpa using startsWithUnit_append_cons blank (by decide) (by decide)
  · simpa using startsWithUnit_append_cons blank (by decide) (by decide)

end IsJoint

/-- Two texts spell years in ascending order. -/
def Ascend (first second : Text) : Prop :=
  ∃ low high, Spells first low ∧ Spells second high ∧ low ≤ high

section Tokens

variable {text : Text}

/-- Whether a leading word that sets one end of a range stands before a stretch. -/
def FollowsLead (side : Side) (token : Stretch text) : Prop :=
  ∃ (front gap : Text) (word : String), token.before = front ++ (word.toList ++ gap) ∧
    word ∈ leads side ∧ gap ≠ [] ∧ isBlank gap = true

/-- Whether a stretch is the first of two years in ascending order. -/
def BeginsPair (token : Stretch text) : Prop :=
  ∃ joint second rest, token.after = joint ++ (second ++ rest) ∧ IsJoint joint ∧
    Ascend token.body second

/-- Whether a stretch is the second of two years in ascending order. -/
def EndsPair (token : Stretch text) : Prop :=
  ∃ front first joint, token.before = front ++ (first ++ joint) ∧ IsJoint joint ∧
    Ascend first token.body

/-- What stands beside a year that may set one end of a range. -/
structure Guarded (side : Side) (token : Stretch text) : Prop where
  /-- A dollar sign stands only before the first of two years, which sets the lower end. -/
  sign : token.followsSign = true → side = .lower ∧ BeginsPair token
  /-- A unit of distance stands only after a year with a leading word and after the second of two
  years, which sets the upper end. -/
  unit : token.precedesUnit = true → FollowsLead side token ∨ (side = .upper ∧ EndsPair token)

variable {side : Side} {token : Stretch text}

theorem guarded_of_followsLead (follows : FollowsLead side token) : Guarded side token where
  sign := by
    obtain ⟨front, gap, word, before, known, -, blank⟩ := follows
    have ends : ∀ word ∈ leads side,
        ∃ c ∈ word.toList.getLast?, isWhiteSpace c = false ∧ c ≠ '$' := by
      cases side <;> simp [leads] <;> decide
    simp [Stretch.followsSign_eq_false before blank (ends word known)]
  unit := fun _ => .inl follows

theorem guarded_of_beginsPair (begins : BeginsPair token) : Guarded .lower token where
  sign := fun _ => ⟨rfl, begins⟩
  unit := by
    obtain ⟨joint, second, rest, after, isJoint, -⟩ := begins
    simp [Stretch.precedesUnit, after, isJoint.startsWithUnit_append]

theorem guarded_of_endsPair (ends : EndsPair token) : Guarded .upper token where
  sign := by
    obtain ⟨front, first, joint, before, isJoint, -⟩ := ends
    cases isJoint with
    | @mark gap mark gap' _ known blank' =>
        have visible : ∃ c ∈ mark.getLast?, isWhiteSpace c = false ∧ c ≠ '$' := by
          rcases known with rfl | rfl <;> simp <;> decide
        have parts : token.before = (front ++ (first ++ gap)) ++ (mark ++ gap') := by
          simp [before]
        simp [Stretch.followsSign_eq_false parts blank' visible]
  unit := fun _ => .inr ⟨rfl, ends⟩

variable {value : UInt32} {span : Span}

/-- No digit stands right beside the digits of a token. -/
structure IsApart (token : Stretch text) : Prop where
  /-- None stands before them. -/
  fresh : startsWithDigit token.before.reverse = false
  /-- None stands after them. -/
  stops : startsWithDigit token.after = false

theorem startsWithDigit_of_mem
    {pattern : Pattern}
    {found : Match}
    (known : pattern ∈ patterns)
    (member : found ∈ pattern.findAll text) :
    startsWithDigit found.before = false ∧ startsWithDigit found.after = false := by
  obtain ⟨-, -, -, -, -, fresh, stops⟩ :=
    exists_lead_of_takes known (takes_of_mem_findAll member)
  exact ⟨startsWithDigit_eq_false fresh, startsWithDigit_eq_false stops⟩

/-- There is no digit before the year of a leading word. -/
theorem LedForm.isWordDigit
    {found : Match}
    (form : LedForm side found) :
    ∀ c ∈ form.word.toList ++ form.gap, Unicode.isWordDigit c = false := by
  have letters : ∀ word ∈ leads side, ∀ c ∈ word.toList, Unicode.isWordDigit c = false := by
    cases side <;> decide
  intro c member
  rcases List.mem_append.1 member with member | member
  · exact letters form.word form.known c member
  · exact isWordDigit_of_isBlank form.blank member

/-- What stands between the two years of a pair. -/
def PairForm.joint {found : Match} (form : PairForm found) : Text :=
  form.gap ++ (form.mark ++ form.gap')

section Pairs

variable {found : Match} {first second : UInt32} (form : PairForm found)
  (year : recordedYear? found .left = some first)
  (year' : recordedYear? found .right = some second)
  (ascending : first ≤ second)

theorem PairForm.isJoint : IsJoint form.joint :=
  .mark form.blank form.known form.blank'

theorem PairForm.isApart_first
    (fresh : startsWithDigit found.before = false)
    (before : token.before = found.before.reverse)
    (after : token.after = form.joint ++ (form.second ++ found.after)) :
    IsApart token where
  fresh := by rwa [before, List.reverse_reverse]
  stops := by
    rw [after]
    exact startsWithDigit_append_of_free form.isJoint.ne_nil (fun _ => form.isJoint.isWordDigit) _

theorem PairForm.isApart_second
    (stops : startsWithDigit found.after = false)
    (before : token.before = (found.before.reverse ++ form.first) ++ form.joint)
    (after : token.after = found.after) :
    IsApart token where
  fresh := by
    rw [before]
    exact startsWithDigit_reverse_append_of_free form.isJoint.ne_nil
      (fun _ => form.isJoint.isWordDigit) _
  stops := by rwa [after]

include year in
theorem PairForm.spells : Spells form.first first := by
  rw [recordedYear?, form.slot] at year
  exact ⟨form.isYear, year⟩

include year' in
theorem PairForm.spells' : Spells form.second second := by
  rw [recordedYear?, form.slot'] at year'
  exact ⟨form.isYear', year'⟩

include year year' ascending in
theorem PairForm.ascend : Ascend form.first form.second :=
  ⟨first, second, form.spells year, form.spells' year', ascending⟩

theorem PairForm.whole_joint : found.text = form.first ++ (form.joint ++ form.second) := by
  simp [form.whole, joint]

end Pairs

/-- A year by itself that may be read stands beside no sign and no unit. -/
theorem guarded_of_standsAlone
    {found : Match}
    (alone : standsAlone found = true)
    (before : token.before = found.before.reverse)
    (after : token.after = found.after) :
    Guarded side token := by
  simp only [standsAlone, Bool.and_eq_true, Bool.not_eq_true'] at alone
  obtain ⟨⟨sign, unit⟩, -⟩ := alone
  constructor
  · have free : token.followsSign = false := by
      rwa [Stretch.followsSign, before, List.reverse_reverse]
    simp [free]
  · have free : token.precedesUnit = false := by
      rwa [Stretch.precedesUnit, after]
    simp [free]

/-- A year that sets a bound is spelled in the stretch that is claimed for it, apart from other
digits. -/
theorem Source.exists_token (source : Source text side value span) :
    ∃ token : Stretch text, span.Covers token.span ∧ Spells token.body value ∧ IsApart token ∧
      Guarded side token := by
  cases source with
  | @led found _ member year =>
      obtain ⟨form⟩ := nonempty_ledForm member
      have known : ledYear side ∈ patterns := by cases side <;> decide
      have apart := startsWithDigit_of_mem known member
      rw [recordedYear?, form.slot] at year
      have split : found.text = (form.word.toList ++ form.gap) ++ (form.digits ++ []) := by
        simp [form.whole]
      refine ⟨_, Stretch.covers_part_ofMatch member split, ⟨form.isYear, year⟩, ⟨?_, apart.2⟩, ?_⟩
      · exact startsWithDigit_reverse_append_of_free (by simp [form.spaced]) form.isWordDigit _
      · exact guarded_of_followsLead ⟨_, form.gap, form.word, rfl, form.known, form.spaced,
          form.blank⟩
  | @pair found first second member year year' ascending =>
      obtain ⟨form⟩ := nonempty_pairForm member
      have apart := startsWithDigit_of_mem (by simp [patterns]) member
      have ascend := form.ascend year year' ascending
      cases side with
      | lower =>
          have split : found.text = [] ++ (form.first ++ (form.joint ++ form.second)) :=
            form.whole_joint
          have after : (form.joint ++ form.second) ++ found.after =
              form.joint ++ (form.second ++ found.after) := List.append_assoc _ _ _
          refine ⟨_, Stretch.covers_part_ofMatch member split, form.spells year,
            form.isApart_first apart.1 (List.append_nil _) after, ?_⟩
          exact guarded_of_beginsPair ⟨form.joint, form.second, found.after, after, form.isJoint,
            ascend⟩
      | upper =>
          have split : found.text = (form.first ++ form.joint) ++ (form.second ++ []) := by
            simp [form.whole_joint]
          have before : found.before.reverse ++ (form.first ++ form.joint) =
              (found.before.reverse ++ form.first) ++ form.joint := (List.append_assoc _ _ _).symm
          refine ⟨_, Stretch.covers_part_ofMatch member split, form.spells' year',
            form.isApart_second apart.2 before rfl, ?_⟩
          exact guarded_of_endsPair ⟨_, form.first, form.joint, rfl, form.isJoint, ascend⟩
  | @lone found _ member year alone =>
      obtain ⟨isYear, slot⟩ := slot?_of_loneYear member
      have apart := startsWithDigit_of_mem (by simp [patterns]) member
      rw [recordedYear?, slot] at year
      refine ⟨.ofMatch member, ?_, ⟨isYear, year⟩, ⟨?_, apart.2⟩,
        guarded_of_standsAlone alone rfl rfl⟩
      · rw [Stretch.span_ofMatch member]
        exact ⟨Nat.le_refl _, Nat.le_refl _⟩
      · simpa [Stretch.ofMatch] using apart.1

/-- What the years in a stretch that is claimed stand beside. -/
theorem Source.guarded_of_covers
    {token : Stretch text}
    (source : Source text side value span)
    (covers : span.Covers token.span)
    (isYear : IsYear token.body) :
    ∃ side, Guarded side token := by
  cases source with
  | @led found _ member year =>
      obtain ⟨form⟩ := nonempty_ledForm member
      obtain ⟨head, tail, before, split, after⟩ := Stretch.exists_split_of_mem member covers
      have same : head ++ (token.body ++ tail) =
          (form.word.toList ++ form.gap) ++ (form.digits ++ []) := by
        rw [← split, form.whole, List.append_assoc, List.append_nil]
      obtain ⟨part, rfl, rest⟩ := isYear.exists_past form.isWordDigit same
      obtain ⟨rfl, -, -⟩ := form.isYear.eq_of_within (by simp) isYear rest
      rw [List.append_nil] at before
      exact ⟨side, guarded_of_followsLead ⟨_, form.gap, form.word, before, form.known,
        form.spaced, form.blank⟩⟩
  | @pair found first second member year year' ascending =>
      obtain ⟨form⟩ := nonempty_pairForm member
      have ascend := form.ascend year year' ascending
      obtain ⟨head, tail, before, split, after⟩ := Stretch.exists_split_of_mem member covers
      rw [form.whole_joint, ← List.append_nil form.second] at split
      rcases form.isYear.eq_or_eq_of_within (fun _ => form.isJoint.isWordDigit)
        form.isJoint.ne_nil form.isYear' (by simp) isYear split.symm with
          ⟨rfl, same, rfl⟩ | ⟨rfl, same, rfl⟩
      · refine ⟨.lower, guarded_of_beginsPair ⟨form.joint, form.second, found.after, ?_,
          form.isJoint, same ▸ ascend⟩⟩
        rw [after, List.append_nil, List.append_assoc]
      · exact ⟨.upper, guarded_of_endsPair ⟨_, form.first, form.joint, before, form.isJoint,
          same ▸ ascend⟩⟩
  | @lone found _ member year alone =>
      obtain ⟨isLone, -⟩ := slot?_of_loneYear member
      obtain ⟨head, tail, before, split, after⟩ := Stretch.exists_split_of_mem member covers
      rw [← List.append_nil found.text] at split
      obtain ⟨rfl, -, rfl⟩ := isLone.eq_of_within (by simp) isYear split.symm
      rw [List.append_nil] at before
      exact ⟨.lower, guarded_of_standsAlone alone before after⟩

end Tokens

/-- A year that sets a bound, and any other year in a claimed stretch, stands after a dollar sign
only as the first of two years, which sets the lower end, and before a unit of distance only after a
leading word or as the second of two years, which sets the upper end. -/
theorem guarded_of_bound (text : Text) :
    (∀ (side : Side) (value : UInt32), side.bound? (read text).bounds = some value →
      ∃ span ∈ (read text).spans, ∃ token : Stretch text, span.Covers token.span ∧
        Spells token.body value ∧ Guarded side token) ∧
      ∀ span ∈ (read text).spans, ∀ token : Stretch text, span.Covers token.span →
        IsYear token.body → ∃ side, Guarded side token := by
  constructor
  · intro side value set
    obtain ⟨span, member, source⟩ := (isTraced_read text).exists_source set
    obtain ⟨token, covers, spells, -, guarded⟩ := source.exists_token
    exact ⟨span, member, token, covers, spells, guarded⟩
  · intro span member token covers isYear
    obtain ⟨side, value, source⟩ := (isTraced_read text).isBuilt.allowed member
    exact source.guarded_of_covers covers isYear

/-- A year is read before a unit of distance where a leading word stands before it, and after a
dollar sign where another year follows. -/
theorem bounds_of_amounts :
    (∃ token : Stretch "from 2000 km".toList,
      token.body = "2000".toList ∧ token.precedesUnit = true ∧
        read "from 2000 km".toList = ⟨{ lower := some 2000 }, [⟨0, 9⟩]⟩ ∧
          (⟨0, 9⟩ : Span).Covers token.span) ∧
      ∃ token : Stretch "$2015-2020".toList,
        token.body = "2015".toList ∧ token.followsSign = true ∧
          read "$2015-2020".toList = ⟨{ lower := some 2015, upper := some 2020 }, [⟨1, 10⟩]⟩ ∧
            (⟨1, 10⟩ : Span).Covers token.span := by
  refine ⟨⟨⟨"from ".toList, "2000".toList, " km".toList, by decide⟩, rfl, ?_⟩,
    ⟨⟨"$".toList, "2015".toList, "-2020".toList, by decide⟩, rfl, ?_⟩⟩
  · unfold Span.Covers
    decide +kernel
  · unfold Span.Covers
    decide +kernel

end Years
end SearchPhrase
