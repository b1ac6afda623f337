import SearchPhrase.Proofs.Pattern.Longest
import SearchPhrase.Proofs.Phrase.Expressions
import SearchPhrase.Proofs.Phrase.YearTokens

/-!
# Whole figures

A bound is read from a whole figure: no digit stands right before it, and it is not the part of a
longer figure that begins at the same place or at the edge of a word.  What ends a figure depends on
what it counts, since a unit of distance may follow a number without a break.
-/

namespace SearchPhrase

open Cursor Pattern Text Unicode

namespace Figure

/-- A number as it stands in a text, perhaps with a scale letter. -/
structure Literal where
  /-- The number. -/
  digits : Text
  /-- The white space after it. -/
  gap : Text
  /-- The scale letter. -/
  letter : Text
  /-- The number has the form of one. -/
  isNumber : IsNumber digits
  /-- There is only white space before the letter. -/
  blank : isBlank gap = true
  /-- The letter is that of thousands or of millions, unless it is missing. -/
  isLetter : letter = [] ∨ letter = ['k'] ∨ letter = ['m']
  /-- Without a letter, there is no white space either. -/
  close : letter = [] → gap = []

namespace Literal

/-- The text of a literal. -/
def text (literal : Literal) : Text :=
  literal.digits ++ (literal.gap ++ literal.letter)

/-- The amount that is meant. -/
def value? (literal : Literal) : Option UInt64 :=
  Amount.read? literal.digits (if literal.letter.isEmpty then none else some literal.letter)

variable {literal other : Literal} {head rest tail : Text}

theorem startsWithDigit_append (literal : Literal) (rest : Text) :
    startsWithDigit (literal.text ++ rest) = true := by
  rw [text, List.append_assoc]
  exact literal.isNumber.startsWithDigit _

/-- No number goes on into what stands after the number of a literal. -/
theorem stops_append
    (stops : literal.letter = [] → ∀ c ∈ rest.head?, inNumber c = false) :
    ∀ c ∈ (literal.gap ++ (literal.letter ++ rest)).head?, inNumber c = false := by
  have letters : ∀ c ∈ ['k', 'm'], inNumber c = false := by decide
  by_cases spaced : literal.gap = []
  · rw [spaced, List.nil_append]
    rcases literal.isLetter with none | thousands | millions
    · simpa [none] using stops none
    · simpa [thousands] using letters 'k' (by decide)
    · simpa [millions] using letters 'm' (by decide)
  · obtain ⟨c, gap, shape⟩ := List.exists_cons_of_ne_nil spaced
    have space := isBlank_iff.1 literal.blank c (by simp [shape])
    simpa [shape] using inNumber_of_isWhiteSpace space

/-- What stands before a digit in a literal belongs to its number. -/
theorem inNumber_of_mem_head
    {c : Char}
    (split : literal.text = head ++ rest)
    (digit : Text.startsWithDigit rest = true)
    (member : c ∈ head) :
    inNumber c = true := by
  rcases List.append_eq_append_iff.1 split with ⟨part, -, later⟩ | ⟨part, whole, -⟩
  · -- The digit would stand after the number.
    obtain ⟨d, others, rfl⟩ : ∃ d others, rest = d :: others := by
      cases rest with
      | nil => cases digit
      | cons d others => exact ⟨d, others, rfl⟩
    have digit : isWordDigit d = true := digit
    have letters : ∀ d ∈ literal.letter, isWordDigit d = false := by
      rcases literal.isLetter with same | same | same <;> rw [same] <;> decide
    rcases List.mem_append.1 (by simp [later] : d ∈ literal.gap ++ literal.letter) with gap | letter
    · rw [isWordDigit_of_isBlank literal.blank gap] at digit
      cases digit
    · rw [letters d letter] at digit
      cases digit
  · exact inNumber_of_mem literal.isNumber (by simp [whole, member])

/-- A literal without a letter is no longer than a number that does not go on. -/
theorem length_le_of_stops
    {digits : Text}
    (plain : literal.letter = [])
    (stops : ∀ c ∈ tail.head?, inNumber c = false)
    (same : literal.text ++ rest = digits ++ tail) :
    literal.text.length ≤ digits.length := by
  have text : literal.text = literal.digits := by simp [Literal.text, plain, literal.close plain]
  rw [text] at same ⊢
  rcases List.append_eq_append_iff.1 same with ⟨part, rfl, -⟩ | ⟨part, whole, later⟩
  · simp
  · cases part with
    | nil => simp [whole]
    | cons c part =>
        have within := inNumber_of_mem literal.isNumber (by simp [whole] : c ∈ literal.digits)
        rw [stops c (by simp [later])] at within
        cases within

/-- Literals with scale letters at one place have the same number. -/
theorem digits_eq_of_scaled
    (scaled : literal.letter ≠ [])
    (stops : ∀ c ∈ tail.head?, inNumber c = false)
    (same : literal.text ++ rest = other.digits ++ tail) :
    literal.digits = other.digits ∧ literal.gap ++ (literal.letter ++ rest) = tail := by
  apply append_inj_of_kind (fun _ => inNumber_of_mem literal.isNumber)
    (fun _ => inNumber_of_mem other.isNumber) (stops_append fun plain => absurd plain scaled) stops
  simpa [text] using same

end Literal

/-- A number of thousands. -/
def Literal.ofThousands {digits : Text} (isNumber : IsNumber digits) : Literal :=
  ⟨digits, [], ['k'], isNumber, isBlank_nil, .inr (.inl rfl), nofun⟩

/-- No number goes on after white space. -/
theorem stops_append_gap
    {gap : Text}
    (spaced : gap ≠ [])
    (blank : isBlank gap = true)
    (front : Text) :
    ∀ c ∈ (front ++ gap).getLast?, inNumber c = false := by
  obtain ⟨init, d, rfl⟩ := (List.eq_nil_or_concat gap).resolve_left spaced
  intro c last
  rw [List.concat_eq_append, ← List.append_assoc, List.getLast?_concat] at last
  cases last
  exact inNumber_of_isWhiteSpace (isBlank_iff.1 blank d (by simp))

/-- The number of an amount with its scale letter. -/
def Sum.literal (sum : Sum) : Literal :=
  ⟨sum.digits, [], sum.letter, sum.isNumber, isBlank_nil, sum.isLetter, fun _ => rfl⟩

/-- An amount with another number after its sign. -/
def Sum.withNumber (sum : Sum) (literal : Literal) : Sum :=
  ⟨sum.sign, literal.digits, literal.letter, sum.isSign, literal.isNumber, literal.isLetter⟩

theorem Sum.text_withNumber
    {literal : Literal}
    (close : literal.gap = [])
    (sum : Sum) :
    (sum.withNumber literal).text = sum.sign ++ literal.text := by
  rw [Literal.text, close]
  rfl

theorem Sum.text_eq_append (sum : Sum) : sum.text = sum.sign ++ sum.literal.text :=
  rfl

end Figure

open Figure

/-- A text spells an amount: it is a number, perhaps with a scale letter, of this value. -/
def Amount.Spells (text : Text) (value : UInt64) : Prop :=
  ∃ literal : Literal, text = literal.text ∧ literal.value? = some value

namespace Stretch

variable {text : Text}

/-- A stretch begins at the edge of a word. -/
def BeginsAtEdge (stretch : Stretch text) : Prop :=
  atBoundary ⟨stretch.before.reverse, stretch.body ++ stretch.after⟩ = true

/-- A stretch ends at the edge of a word. -/
def EndsAtEdge (stretch : Stretch text) : Prop :=
  atBoundary ⟨stretch.body.reverse ++ stretch.before.reverse, stretch.after⟩ = true

/-- A stretch is a whole figure of some kind: no digit stands right before it, and no other figure
of that kind takes it in that begins at the same place or at the edge of a word. -/
structure IsWholeFigure (IsFigure : Stretch text → Prop) (stretch : Stretch text) : Prop where
  /-- It is a figure of that kind. -/
  isFigure : IsFigure stretch
  /-- No digit stands right before it. -/
  fresh : startsWithDigit stretch.before.reverse = false
  /-- It is the longest figure at its place, and no part of one that begins before it. -/
  longest : ∀ other : Stretch text, IsFigure other → other.span.Covers stretch.span →
    other.before = stretch.before ∨ other.BeginsAtEdge → other = stretch

theorem eq_of_body_eq
    {first second : Stretch text}
    (before : first.before = second.before)
    (body : first.body = second.body) :
    first = second := by
  obtain ⟨before', body', after, whole⟩ := first
  obtain ⟨before'', body'', after', rfl⟩ := second
  obtain rfl : before' = before'' := before
  obtain rfl : body' = body'' := body
  obtain rfl : after = after' := by simpa using whole
  rfl

variable {IsFigure : Stretch text → Prop} {stretch : Stretch text}

/-- A figure is whole if it is the longest one at its place, and if none that takes it in begins at
an edge before it. -/
theorem isWholeFigure_of_longest
    (isFigure : IsFigure stretch)
    (fresh : startsWithDigit stretch.before.reverse = false)
    (earliest : ∀ (other : Stretch text) (head tail : Text), IsFigure other → other.BeginsAtEdge →
      stretch.before = other.before ++ head → other.body = head ++ (stretch.body ++ tail) →
        head = [])
    (longest : ∀ other : Stretch text, IsFigure other → other.before = stretch.before →
      other.body.length ≤ stretch.body.length) :
    stretch.IsWholeFigure IsFigure := by
  refine ⟨isFigure, fresh, ?_⟩
  intro other isFigure' covers place
  obtain ⟨head, tail, before, body, -⟩ := exists_split_of_covers covers.1 covers.2
  obtain rfl : head = [] := by
    rcases place with same | edge
    · rw [same] at before
      exact List.self_eq_append_right.1 before
    · exact earliest other head tail isFigure' edge before body
  rw [List.append_nil] at before
  rw [List.nil_append] at body
  have lengths := longest other isFigure' before.symm
  rw [body, List.length_append] at lengths
  obtain rfl : tail = [] := List.length_eq_zero_iff.1 (by omega)
  exact eq_of_body_eq before.symm (by simpa using body)

/-- A figure that begins with a digit, where no number goes on before it, is whole if it is the
longest one at its place. -/
theorem isWholeFigure_of_stops
    (spelled : ∀ other : Stretch text, IsFigure other →
      ∃ literal : Literal, other.body = literal.text)
    (isFigure : IsFigure stretch)
    (stops : ∀ c ∈ stretch.before.getLast?, inNumber c = false)
    (longest : ∀ other : Stretch text, IsFigure other → other.before = stretch.before →
      other.body.length ≤ stretch.body.length) :
    stretch.IsWholeFigure IsFigure := by
  obtain ⟨literal, body⟩ := spelled stretch isFigure
  apply isWholeFigure_of_longest isFigure _ _ longest
  · cases shape : stretch.before.reverse with
    | nil => rfl
    | cons c front =>
        have last : stretch.before.getLast? = some c := by
          rw [← List.head?_reverse, shape, List.head?_cons]
        have apart := stops c last
        simp only [inNumber, Bool.or_eq_false_iff] at apart
        exact apart.1.1
  · intro other head tail isFigure' _ before within
    obtain ⟨literal', body'⟩ := spelled other isFigure'
    rcases List.eq_nil_or_concat head with none | ⟨front, c, rfl⟩
    · exact none
    · -- The longer figure would hold what stands before the first digit of the shorter one.
      have digit : startsWithDigit (stretch.body ++ tail) = true := by
        rw [body]
        exact literal.startsWithDigit_append tail
      have part := literal'.inNumber_of_mem_head (body' ▸ within) digit
        (by simp : c ∈ front.concat c)
      rw [stops c (by simp [before])] at part
      cases part

end Stretch

/-! ## Prices -/

namespace Budget

variable {text : Text}

/-- A figure of a price: a number with the scale letter right after it, up to the edge of a word.
The edge may come right after a comma, so that the figure in "5,5x" is "5,". -/
structure IsFigure (stretch : Stretch text) : Prop where
  /-- There is no white space before the letter. -/
  spelled : ∃ literal : Literal, literal.gap = [] ∧ stretch.body = literal.text
  /-- It ends at the edge of a word. -/
  closes : stretch.EndsAtEdge

/-- The number of an amount that stands between two texts is a whole figure. -/
def Stands (text front : Text) (sum : Sum) (after : Text) : Prop :=
  ∃ figure : Stretch text, figure.before = front ++ sum.sign ∧ figure.body = sum.literal.text ∧
    figure.after = after ∧ figure.IsWholeFigure IsFigure

variable {front after : Text} {sum : Sum}

/-- No number goes on before the number of an amount if none goes on before the amount. -/
theorem stops_append_sign
    (stops : ∀ c ∈ front.getLast?, inNumber c = false) :
    ∀ c ∈ (front ++ sum.sign).getLast?, inNumber c = false := by
  rcases sum.isSign with none | ⟨gap, sign, blank⟩
  · rwa [none, List.append_nil]
  · by_cases spaced : gap = []
    · rw [sign, spaced, List.getLast?_concat]
      rintro _ ⟨⟩
      decide
    · have parts : front ++ sum.sign = (front ++ ['$']) ++ gap := by simp [sign]
      rw [parts]
      exact stops_append_gap spaced blank _

/-- The number of an amount is a whole figure if no number goes on before the amount, and no other
amount that begins there and ends at an edge is longer. -/
theorem stands_of_longest
    (whole : front ++ (sum.text ++ after) = text)
    (stops : ∀ c ∈ front.getLast?, inNumber c = false)
    (closes : atBoundary ⟨sum.text.reverse ++ front.reverse, after⟩ = true)
    (longest : ∀ (other : Sum) (rest : Text), other.sign = sum.sign →
      other.text ++ rest = sum.text ++ after →
        atBoundary ⟨other.text.reverse ++ front.reverse, rest⟩ = true →
          other.text.length ≤ sum.text.length) :
    Stands text front sum after := by
  have parts : (front ++ sum.sign) ++ (sum.literal.text ++ after) = text := by
    rw [← whole, sum.text_eq_append, List.append_assoc, List.append_assoc]
  refine ⟨⟨_, _, _, parts⟩, rfl, rfl, rfl, ?_⟩
  refine Stretch.isWholeFigure_of_stops
    (fun other isFigure => isFigure.spelled.imp fun _ => And.right)
    ⟨⟨sum.literal, rfl, rfl⟩, ?_⟩ (stops_append_sign stops) ?_
  · simpa [Stretch.EndsAtEdge, sum.text_eq_append] using closes
  · rintro other ⟨⟨literal, close, body⟩, edge⟩ before
    have before : other.before = front ++ sum.sign := before
    have number : (sum.withNumber literal).text = sum.sign ++ other.body := by
      rw [body, sum.text_withNumber close]
    have same : (sum.withNumber literal).text ++ other.after = sum.text ++ after := by
      have same := other.whole.trans whole.symm
      rw [before, List.append_assoc] at same
      rw [number, List.append_assoc]
      exact List.append_cancel_left same
    have lengths := longest (sum.withNumber literal) other.after rfl same (by
      simpa [Stretch.EndsAtEdge, number, before] using edge)
    rw [number, sum.text_eq_append, List.length_append, List.length_append] at lengths
    exact Nat.le_of_add_le_add_left lengths

/-- White space is neither a part of a number nor a scale letter. -/
theorem ends_of_blank
    {gap : Text}
    (spaced : gap ≠ [])
    (blank : isBlank gap = true)
    (rest : Text) :
    ∀ c ∈ (gap ++ rest).head?, inNumber c = false ∧ c ∉ ['k', 'm'] := by
  have letters : ∀ c ∈ ['k', 'm'], isWhiteSpace c = false := by decide
  obtain ⟨d, others, rfl⟩ := List.exists_cons_of_ne_nil spaced
  have space := isBlank_iff.1 blank d List.mem_cons_self
  rintro _ ⟨⟩
  refine ⟨inNumber_of_isWhiteSpace space, fun letter => ?_⟩
  rw [letters d letter] at space
  cases space

/-- So it is if what follows the amount goes on neither with a number nor with a scale letter. -/
theorem stands_of_stops
    (whole : front ++ (sum.text ++ after) = text)
    (stops : ∀ c ∈ front.getLast?, inNumber c = false)
    (closes : atBoundary ⟨sum.text.reverse ++ front.reverse, after⟩ = true)
    (ended : ∀ c ∈ after.head?, inNumber c = false ∧ c ∉ ['k', 'm']) :
    Stands text front sum after := by
  refine stands_of_longest whole stops closes ?_
  intro other rest sign same _
  rw [Sum.text, Sum.text, sign, List.append_assoc, List.append_assoc sum.sign] at same
  have same := List.append_cancel_left same
  rcases List.append_eq_append_iff.1 same with ⟨part, split, -⟩ | ⟨part, split, later⟩
  · simp [Sum.text, sign, split]
  · cases part with
    | nil => simp [Sum.text, sign, split]
    | cons c part =>
        -- The longer amount would go on with what follows the shorter one.
        obtain ⟨noNumber, noLetter⟩ := ended c (by simp [later])
        have letters : ∀ c ∈ other.letter, c ∈ ['k', 'm'] := by
          rcases other.isLetter with same | same | same <;> simp [same]
        rcases List.mem_append.1 (by simp [split] : c ∈ other.digits ++ other.letter) with
          number | letter
        · rw [inNumber_of_mem other.isNumber number] at noNumber
          cases noNumber
        · exact absurd (letters c letter) noLetter

section Occurrences

variable {side : Side} {found : Match}

/-- A limit with another amount. -/
def LimitForm.withSum
    (form : LimitForm side found)
    (sum : Sum)
    (close : sum.sign.length ≤ 2) :
    LimitText side :=
  ⟨form.words, form.gap, sum, form.announces, form.spaced, form.blank, close⟩

/-- An amount between two others, of which the second is another one. -/
def BetweenForm.withSecond
    (form : BetweenForm found)
    (second : Sum)
    (close : second.sign.length ≤ 2) :
    BetweenText :=
  ⟨form.gap, form.first, form.gap', form.gap'', second, ⟨form.spaced, form.blank⟩,
    ⟨form.spaced', form.blank'⟩, ⟨form.spaced'', form.blank''⟩, form.close.1, close⟩

/-- A range with another second amount. -/
def RangeForm.withSecond
    (form : RangeForm found)
    (second : Sum)
    (close : second.sign.length ≤ 2) :
    RangeText :=
  ⟨form.first, form.gap, form.mark, form.gap', second, form.blank, form.known, form.blank',
    form.close.1, close⟩

/-- The text before the second amount. -/
def BetweenForm.opening (form : BetweenForm found) : Text :=
  "between".toList ++ (form.gap ++ (form.first.text ++ (form.gap' ++ ("and".toList ++ form.gap''))))

/-- The text before the second amount. -/
def RangeForm.opening (form : RangeForm found) : Text :=
  form.first.text ++ (form.gap ++ (form.mark ++ form.gap'))

theorem BetweenForm.whole_opening (form : BetweenForm found) :
    found.text = form.opening ++ form.second.text := by
  rw [form.whole]
  unfold opening
  simp only [List.append_assoc]

theorem RangeForm.whole_opening (form : RangeForm found) :
    found.text = form.opening ++ form.second.text := by
  rw [form.whole]
  unfold opening
  simp only [List.append_assoc]

/-- The amount at the end of an occurrence has a whole figure, if the pattern could take any other
amount there and takes as much as it can. -/
theorem stands_of_isOrdered
    {pattern : Pattern}
    {opening : Text}
    (ordered : pattern.isOrdered = true)
    (member : found ∈ pattern.findAll text)
    (whole : found.text = opening ++ sum.text)
    (stops : ∀ c ∈ (found.before.reverse ++ opening).getLast?, inNumber c = false)
    (closes : atBoundary ⟨found.text.reverse ++ found.before, found.after⟩ = true)
    (takes : ∀ (other : Sum) (rest : Text), other.sign = sum.sign →
      (opening ++ other.text) ++ rest = found.text ++ found.after →
        atBoundary ⟨(opening ++ other.text).reverse ++ found.before, rest⟩ = true →
          pattern.Takes found.before (opening ++ other.text) rest) :
    Stands text (found.before.reverse ++ opening) sum found.after := by
  refine stands_of_longest ?_ stops (by simpa [whole] using closes) ?_
  · rw [← (whole_of_mem_findAll member).1, whole]
    simp only [List.append_assoc]
  · intro other rest sign same edge
    have same : (opening ++ other.text) ++ rest = found.text ++ found.after := by
      rw [whole, List.append_assoc, List.append_assoc, same]
    have lengths := length_le_of_mem ordered member
      (takes other rest sign same (by simpa using edge)) same
    rw [whole, List.length_append, List.length_append] at lengths
    exact Nat.le_of_add_le_add_left lengths

/-- The amount of a limit has a whole figure. -/
theorem LimitForm.stands
    (form : LimitForm side found)
    (member : found ∈ (limited side.limit).findAll text) :
    Stands text (found.before.reverse ++ (form.words ++ form.gap)) form.sum found.after := by
  have ordered : (limited side.limit).isOrdered = true := by cases side <;> decide
  refine stands_of_isOrdered ordered member (by simp [form.whole]) ?_ form.closes ?_
  · rw [← List.append_assoc]
    exact stops_append_gap form.spaced form.blank _
  · intro other rest sign same edge
    refine takes_limited.2 ⟨form.withSum other (sign ▸ form.close), ?_, ?_, edge⟩
    · exact List.append_assoc _ _ _
    · rw [same]
      exact form.opens

/-- So has the second of two amounts after "between". -/
theorem BetweenForm.stands_second
    (form : BetweenForm found)
    (member : found ∈ between.findAll text) :
    Stands text (found.before.reverse ++ form.opening) form.second found.after := by
  refine stands_of_isOrdered (by decide) member form.whole_opening ?_ form.closes ?_
  · unfold opening
    simp only [← List.append_assoc]
    exact stops_append_gap form.spaced'' form.blank'' _
  · intro other rest sign same edge
    refine takes_between.2 ⟨form.withSecond other (sign ▸ form.close.2), rfl, form.ends, ?_, edge⟩
    rw [same]
    exact form.opens

/-- The first of them has one too, since white space follows it. -/
theorem BetweenForm.stands_first
    (form : BetweenForm found)
    (member : found ∈ between.findAll text) :
    Stands text (found.before.reverse ++ ("between".toList ++ form.gap)) form.first
      (form.gap' ++ ("and".toList ++ (form.gap'' ++ (form.second.text ++ found.after)))) := by
  refine stands_of_stops ?_ ?_ ?_ (ends_of_blank form.spaced' form.blank' _)
  · rw [← (whole_of_mem_findAll member).1, form.whole]
    simp only [List.append_assoc]
  · rw [← List.append_assoc]
    exact stops_append_gap form.spaced form.blank _
  · rw [atBoundary_sum_append ⟨form.spaced', form.blank'⟩]
    exact form.ends

/-- What marks a range is neither a part of a number nor a scale letter. -/
theorem RangeForm.ends_first
    (form : RangeForm found)
    (rest : Text) :
    ∀ c ∈ (form.gap ++ (form.mark ++ rest)).head?, inNumber c = false ∧ c ∉ ['k', 'm'] := by
  by_cases spaced : form.gap = []
  · have marks : ∀ c ∈ ['-', 't'], inNumber c = false ∧ c ∉ ['k', 'm'] := by decide
    rw [spaced, List.nil_append]
    rcases form.known with mark | mark
    · rw [mark]
      rintro _ ⟨⟩
      exact marks '-' (by decide)
    · rw [mark]
      rintro _ ⟨⟩
      exact marks 't' (by decide)
  · exact ends_of_blank spaced form.blank _

/-- No number goes on after the mark of a range. -/
theorem RangeForm.stops_opening
    (form : RangeForm found)
    (front : Text) :
    ∀ c ∈ (front ++ form.opening).getLast?, inNumber c = false := by
  by_cases spaced : form.gap' = []
  · have marks : ∀ c ∈ ['-', 'o'], inNumber c = false := by decide
    unfold opening
    rw [spaced, List.append_nil]
    simp only [← List.append_assoc]
    rcases form.known with mark | mark
    · rw [mark, List.getLast?_concat]
      rintro _ ⟨⟩
      exact marks '-' (by decide)
    · have parts : ['t', 'o'] = ['t'] ++ ['o'] := rfl
      rw [mark, parts, ← List.append_assoc, List.getLast?_concat]
      rintro _ ⟨⟩
      exact marks 'o' (by decide)
  · unfold opening
    simp only [← List.append_assoc]
    exact stops_append_gap spaced form.blank' _

/-- The second amount of a range has a whole figure. -/
theorem RangeForm.stands_second
    (form : RangeForm found)
    (member : found ∈ bareRange.findAll text) :
    Stands text (found.before.reverse ++ form.opening) form.second found.after := by
  refine stands_of_isOrdered (by decide) member form.whole_opening (form.stops_opening _)
    form.closes ?_
  intro other rest sign _ edge
  refine takes_bareRange.2 ⟨form.withSecond other (sign ▸ form.close.2), ?_, form.ends, edge⟩
  exact List.append_assoc _ _ _

/-- The first one has one too, if a token may begin at the range. -/
theorem RangeForm.stands_first
    (form : RangeForm found)
    (member : found ∈ bareRange.findAll text)
    (begins : found.beginsToken = true) :
    Stands text found.before.reverse form.first
      (form.gap ++ (form.mark ++ (form.gap' ++ (form.second.text ++ found.after)))) := by
  refine stands_of_stops ?_ ?_ ?_ (form.ends_first _)
  · rw [← (whole_of_mem_findAll member).1, form.whole]
    simp only [List.append_assoc]
  · intro c last
    rw [List.getLast?_reverse] at last
    obtain ⟨rest, shape⟩ := List.head?_eq_some_iff.1 last
    rw [Match.beginsToken, shape, Bool.not_eq_true'] at begins
    exact inNumber_of_apart begins
  · have ends := form.ends
    have middle : form.gap ++ (form.mark ++ form.gap') ≠ [] := by
      rcases form.known with mark | mark <;> simp [mark]
    rw [← atBoundary_append (by simpa using form.first.text_ne_nil) middle
      found.before.reverse.reverse (form.second.text ++ found.after)] at ends
    simpa only [List.append_assoc] using ends

end Occurrences

end Budget

/-! ## Distances -/

namespace Mileage

variable {text : Text}

/-- A figure of a distance: a number, perhaps counted in thousands, up to the edge of a word or to a
unit of distance. -/
structure IsFigure (stretch : Stretch text) : Prop where
  /-- It is not counted in millions. -/
  spelled : ∃ literal : Literal, literal.letter ≠ ['m'] ∧ stretch.body = literal.text
  /-- It ends at the edge of a word or before a unit. -/
  closes : stretch.EndsAtEdge ∨ IsUnitTail [] stretch.after

variable {figure other : Stretch text}

/-- A unit of distance does not begin with the letter of a figure in thousands. -/
theorem IsFigure.not_isUnitTail
    {literal : Literal}
    (isFigure : IsFigure figure)
    (body : figure.body = literal.text)
    (thousands : literal.letter = ['k']) :
    ¬IsUnitTail [] (literal.gap ++ (['k'] ++ figure.after)) := by
  intro tail
  rcases isFigure.closes with edge | unit
  · have ended : startsWithWord figure.after = false := by
      apply startsWithWord_eq_false_of_atBoundary' edge
      rw [body, Literal.text, thousands]
      simp only [List.reverse_append]
      rfl
    exact not_isUnitTail_cons literal.blank ended tail
  · exact not_isUnitTail_nil (unit.scaled literal.blank) tail

/-- A number that is counted in thousands, or has a unit after it, is the longest figure at its
place. -/
theorem length_le_of_isFigure
    {literal : Literal}
    (body : figure.body = literal.text)
    (few : literal.letter ≠ ['m'])
    (unit : literal.letter = [] → IsUnitTail [] figure.after)
    (isFigure : IsFigure other)
    (before : other.before = figure.before) :
    other.body.length ≤ figure.body.length := by
  obtain ⟨literal', few', body'⟩ := isFigure.spelled
  have same := other.whole.trans figure.whole.symm
  rw [before, body, body'] at same
  have same : literal'.text ++ other.after =
      literal.digits ++ (literal.gap ++ (literal.letter ++ figure.after)) := by
    simpa [Literal.text] using List.append_cancel_left same
  have stops := literal.stops_append fun none => (unit none).stops
  rw [body, body']
  by_cases plain' : literal'.letter = []
  · have lengths := Literal.length_le_of_stops plain' stops same
    exact Nat.le_trans lengths (by simp [Literal.text])
  · have thousands' : literal'.letter = ['k'] :=
      (literal'.isLetter.resolve_left plain').resolve_right few'
    obtain ⟨digits, later⟩ := Literal.digits_eq_of_scaled plain' stops same
    rw [thousands'] at later
    by_cases plain : literal.letter = []
    · -- The letter of the longer figure would be the first one of the unit.
      rw [plain, literal.close plain, List.nil_append, List.nil_append] at later
      exact absurd (later ▸ unit plain) (isFigure.not_isUnitTail body' thousands')
    · have thousands : literal.letter = ['k'] :=
        (literal.isLetter.resolve_left plain).resolve_right few
      rw [thousands] at later
      obtain ⟨gaps, -⟩ := append_inj_of_kind (isBlank_iff.1 literal'.blank)
        (isBlank_iff.1 literal.blank) (by simp; decide) (by simp; decide) later
      exact Nat.le_of_eq (by rw [Literal.text, Literal.text, digits, gaps, thousands, thousands'])

theorem exists_literal (isFigure : IsFigure other) :
    ∃ literal : Literal, other.body = literal.text :=
  isFigure.spelled.imp fun _ => And.right

variable {side : Side} {found : Match}

/-- The number of a limit with a unit. -/
def UnitForm.literal (form : UnitForm side found) : Literal :=
  ⟨form.digits, form.gap', form.letter, form.isNumber, form.blank', form.isLetter.imp_right .inl,
    form.close⟩

theorem UnitForm.isWholeFigure
    (form : UnitForm side found)
    (before : figure.before = found.before.reverse ++ (form.words ++ form.gap))
    (body : figure.body = form.literal.text)
    (after : figure.after = form.gap'' ++ (form.unit.toList ++ found.after)) :
    figure.IsWholeFigure IsFigure := by
  have few : form.letter ≠ ['m'] := by
    rcases form.isLetter with letter | letter <;> simp [letter]
  have unit : IsUnitTail [] figure.after := by
    rw [after]
    exact @IsUnitTail.parts [] form.gap'' [] _ _ form.blank'' (.inl rfl) rfl form.known
      form.startsWithWord_after
  refine Stretch.isWholeFigure_of_stops (fun _ => exists_literal)
    ⟨⟨form.literal, few, body⟩, .inr unit⟩ ?_
    fun other => length_le_of_isFigure body few fun _ => unit
  rw [before, ← List.append_assoc]
  exact stops_append_gap form.spaced form.blank _

theorem ThousandsForm.isWholeFigure
    (form : ThousandsForm side found)
    (before : figure.before = found.before.reverse ++ (form.words ++ form.gap))
    (body : figure.body = (Literal.ofThousands form.isNumber).text)
    (after : figure.after = found.after) :
    figure.IsWholeFigure IsFigure := by
  have few : (Literal.ofThousands form.isNumber).letter ≠ ['m'] := by simp [Literal.ofThousands]
  refine Stretch.isWholeFigure_of_stops (fun _ => exists_literal) ⟨⟨_, few, body⟩, .inl ?_⟩ ?_
    fun other => length_le_of_isFigure body few nofun
  · have closes := form.closes
    rw [form.whole] at closes
    simpa [Stretch.EndsAtEdge, before, body, after, Literal.text, Literal.ofThousands] using closes
  · rw [before, ← List.append_assoc]
    exact stops_append_gap form.spaced form.blank _

/-- A number of thousands before words that make it a limit may have further digits. -/
theorem takes_orBelow_append
    {head digits rest before after : Text}
    (takes : orBelow.Takes (head.reverse ++ before) (digits ++ 'k' :: rest) after)
    (isNumber : IsNumber digits)
    (grown : IsNumber (head ++ digits))
    (opens : atBoundary ⟨before, (head ++ (digits ++ 'k' :: rest)) ++ after⟩ = true) :
    orBelow.Takes before (head ++ (digits ++ 'k' :: rest)) after := by
  obtain ⟨-, inner, closes⟩ := takes_bounded.1 takes
  obtain ⟨_, tail, whole, ⟨_, word, rfl, ⟨_, more, rfl, ⟨_, gap, rfl, ⟨digits', scale, rfl,
    isNumber', isScale⟩, isGap⟩, isMore⟩, isWord⟩, isTail⟩ := inner
  obtain rfl := takes_only.1 isScale
  obtain ⟨rfl, -⟩ := append_inj_of_kind (fun _ => inNumber_of_mem isNumber)
    (fun _ => inNumber_of_mem (isNumber_of_takes isNumber')) (by simp; decide) (by simp; decide)
    (show digits ++ 'k' :: rest = digits' ++ 'k' :: (gap ++ (more ++ (word ++ tail))) by
      simpa using whole)
  refine takes_bounded.2 ⟨opens, ⟨head ++ digits ++ ['k'] ++ gap ++ more ++ word, tail, ?_,
    ⟨_, word, rfl, ⟨_, more, rfl, ⟨_, gap, rfl, ⟨_, ['k'], rfl, takes_number.2 grown, ?_⟩, ?_⟩,
      ?_⟩, ?_⟩, ?_⟩, ?_⟩
  · rw [whole]
    simp only [List.append_assoc]
  · exact takes_only.2 rfl
  · simpa using isGap
  · simpa using isMore
  · simpa using isWord
  · simpa using isTail
  · simpa using closes

/-- The words after a number of thousands end in a letter. -/
theorem inNumber_of_takes_orBelow
    {before front after : Text}
    {c : Char}
    (takes : orBelow.Takes before (front ++ [c]) after) :
    inNumber c = false := by
  have letters : ∀ word ∈ ["below", "under", "less"] ++ distanceWords,
      (word.toList.getLast?.any fun c => !inNumber c) = true := by
    decide
  have ends : ∀ {rest : Text} {word : String}, front ++ [c] = rest ++ word.toList →
      word ∈ ["below", "under", "less"] ++ distanceWords → inNumber c = false := by
    intro rest word same known
    obtain ⟨d, last, apart⟩ := (Option.any_eq_true _ _).1 (letters word known)
    have same := congrArg List.getLast? same
    rw [List.getLast?_concat, List.getLast?_append, last, Option.some_or] at same
    cases same
    simpa using apart
  obtain ⟨-, inner, -⟩ := takes_bounded.1 takes
  obtain ⟨_, rest, whole, ⟨_, word, rfl, -, isWord⟩, isRest⟩ := inner
  rcases takes_opt.1 isRest with ⟨gap, unit, rfl, -, isUnit⟩ | rfl
  · obtain ⟨unit, known, rfl⟩ := takes_oneOf.1 isUnit
    rw [← List.append_assoc] at whole
    exact ends whole (List.mem_append_right _ known)
  · obtain ⟨word, known, rfl⟩ := takes_oneOf.1 isWord
    rw [List.append_nil] at whole
    exact ends whole (List.mem_append_left _ known)

/-- A figure that takes in a number of thousands has the same number with further digits. -/
theorem isNumber_of_takesIn
    {digits head tail : Text}
    (isNumber : IsNumber digits)
    (isFigure : IsFigure other)
    (body : other.body = head ++ (digits ++ 'k' :: tail)) :
    IsNumber (head ++ digits) := by
  obtain ⟨literal, same⟩ := exists_literal isFigure
  have whole : literal.digits ++ (literal.gap ++ (literal.letter ++ [])) =
      (head ++ digits) ++ 'k' :: tail := by
    rw [List.append_nil, List.append_assoc, ← body, same, Literal.text]
  have kind : ∀ c ∈ head ++ digits, inNumber c = true := by
    intro c member
    rcases List.mem_append.1 member with member | member
    · exact literal.inNumber_of_mem_head (same.symm.trans body) (isNumber.startsWithDigit _) member
    · exact inNumber_of_mem isNumber member
  obtain ⟨digits, -⟩ := append_inj_of_kind (fun _ => inNumber_of_mem literal.isNumber) kind
    (literal.stops_append (by simp)) (by simp; decide) whole
  exact digits ▸ literal.isNumber

/-- No figure that takes in a number of thousands before words that make it a limit begins at an
edge before it, since the search would have found it there. -/
theorem OrBelowForm.eq_nil_of_edge
    {head tail : Text}
    (form : OrBelowForm found)
    (member : found ∈ orBelow.findAll text)
    (isFigure : IsFigure other)
    (edge : other.BeginsAtEdge)
    (before : found.before.reverse = other.before ++ head)
    (body : other.body = head ++ (form.digits ++ 'k' :: tail)) :
    head = [] := by
  have grown := isNumber_of_takesIn form.isNumber isFigure body
  have place : found.before = head.reverse ++ other.before.reverse := by
    rw [← List.reverse_append, ← before, List.reverse_reverse]
  have takes : orBelow.Takes other.before.reverse (head ++ found.text) found.after := by
    have known := takes_of_mem_findAll member
    have same : (head ++ found.text) ++ found.after = other.body ++ other.after := by
      have whole := (whole_of_mem_findAll member).1.trans other.whole.symm
      rw [before, List.append_assoc, List.append_assoc] at whole
      rw [List.append_assoc]
      exact List.append_cancel_left whole
    unfold Stretch.BeginsAtEdge at edge
    rw [← same] at edge
    rw [place] at known
    rw [form.whole] at known edge ⊢
    exact takes_orBelow_append known form.isNumber grown edge
  by_contra longer
  -- The search would have found an occurrence before, which ends in a letter.
  obtain ⟨found', member', start, part, more, split, nonempty, rfl⟩ :=
    exists_found_before (by decide) member before longer takes
  obtain ⟨init, c, rfl⟩ := (List.eq_nil_or_concat part).resolve_left nonempty
  have within : inNumber c = true := inNumber_of_mem grown (by simp)
  have last := takes_of_mem_findAll member'
  rw [split, List.concat_eq_append, ← List.append_assoc] at last
  rw [inNumber_of_takes_orBelow last] at within
  cases within

/-- A number of thousands before words that make it a limit is a whole figure. -/
theorem OrBelowForm.isWholeFigure
    (form : OrBelowForm found)
    (member : found ∈ orBelow.findAll text)
    (before : figure.before = found.before.reverse)
    (body : figure.body = (Literal.ofThousands form.isNumber).text)
    (after : figure.after = form.rest ++ found.after) :
    figure.IsWholeFigure IsFigure := by
  have few : (Literal.ofThousands form.isNumber).letter ≠ ['m'] := by simp [Literal.ofThousands]
  refine Stretch.isWholeFigure_of_longest ⟨⟨_, few, body⟩, .inl ?_⟩ ?_ ?_
    fun other => length_le_of_isFigure body few nofun
  · have ends : startsWithWord (figure.body.reverse ++ figure.before.reverse) = true := by
      rw [body, Literal.text]
      simp only [List.reverse_append]
      rfl
    have ended : startsWithWord figure.after = false := by
      rw [after, startsWithWord_append form.nonempty, form.stops]
    rw [Stretch.EndsAtEdge, atBoundary_of_ended ended, ends]
  · obtain ⟨opens, -⟩ := takes_bounded.1 (takes_of_mem_findAll member)
    have digit : startsWithDigit (found.text ++ found.after) = true := by
      rw [form.whole, List.append_assoc]
      exact form.isNumber.startsWithDigit _
    have fresh := startsWithWord_eq_false_of_atBoundary opens
      (startsWithWord_of_startsWithDigit digit)
    rw [before, List.reverse_reverse]
    exact startsWithDigit_eq_false fresh
  · intro other head tail isFigure edge place within
    have within : other.body = head ++ (form.digits ++ 'k' :: tail) := by
      simpa [body, Literal.text, Literal.ofThousands] using within
    exact form.eq_nil_of_edge member isFigure edge (before ▸ place) within

end Mileage

/-! ## Years -/

namespace Years

variable {text : Text} {figure : Stretch text}

/-- A figure of a year: four digits of which none goes on after them. -/
structure IsFigure (stretch : Stretch text) : Prop where
  /-- They have the form of a year. -/
  isYear : IsYear stretch.body
  /-- No digit stands right after them. -/
  stops : startsWithDigit stretch.after = false

/-- A year between other characters than digits is a whole figure. -/
theorem IsFigure.isWholeFigure
    (isFigure : IsFigure figure)
    (fresh : startsWithDigit figure.before.reverse = false) :
    figure.IsWholeFigure IsFigure := by
  refine Stretch.isWholeFigure_of_longest isFigure fresh ?_ ?_
  · intro other head tail isFigure' _ _ body
    have lengths := congrArg List.length body
    rw [List.length_append, List.length_append, isFigure'.isYear.length_eq,
      isFigure.isYear.length_eq] at lengths
    exact List.length_eq_zero_iff.1 (by omega)
  · intro other isFigure' _
    exact Nat.le_of_eq (isFigure'.isYear.length_eq.trans isFigure.isYear.length_eq.symm)

end Years
end SearchPhrase
