import SearchPhrase.Phrase.Maker
import SearchPhrase.Proofs.Pattern.Neighbors
import SearchPhrase.Proofs.Phrase.Expressions
import SearchPhrase.Proofs.Phrase.Sources

/-!
# How figures begin

A figure begins with a digit, perhaps after a dollar sign, or with a word that white space follows.
What stands side by side in the name of a make never stands so in a figure, so that no figure begins
in or before a make and goes on after it.
-/

namespace SearchPhrase

open Cursor Figure Pattern Text Unicode

namespace Budget

/-- The patterns that prices are read by. -/
def patterns : List Pattern :=
  [limited atMost, limited atLeast, between, bareRange]

theorem limited_mem_patterns (side : Side) : limited side.limit ∈ patterns := by
  cases side
  · exact List.mem_cons_self
  · exact List.mem_cons_of_mem _ List.mem_cons_self

/-- Prices claim occurrences of their patterns. -/
theorem occurAt_of_mem_spans
    {claimed : List Span}
    {text : Text}
    {span : Span}
    (member : span ∈ (read claimed text).spans) :
    OccurAt patterns text span := by
  obtain ⟨side, value, source⟩ := (isTraced_read claimed text).isBuilt.allowed member
  cases source with
  | limit found _ _ => exact occurAt_of_mem (limited_mem_patterns side) found
  | between found _ _ => exact occurAt_of_mem (by simp [patterns]) found
  | range found _ _ _ _ _ => exact occurAt_of_mem (by simp [patterns]) found

end Budget

namespace Interpretation

/-- The stretches of a phrase in lower case that years, distances and prices have claimed. -/
def figureSpans (text : Text) : List Span :=
  claimedSpans text ++ (openPrices text).spans

/-- The patterns that years, distances and prices are read by. -/
def figurePatterns : List Pattern :=
  Years.patterns ++ (Mileage.patterns ++ Budget.patterns)

/-- What has been claimed is an occurrence of one of the patterns. -/
theorem occurAt_of_mem_figureSpans
    {text : Text}
    {span : Span}
    (member : span ∈ figureSpans text) :
    OccurAt figurePatterns text span := by
  have wider : ∀ patterns ⊆ figurePatterns, OccurAt patterns text span →
      OccurAt figurePatterns text span := by
    rintro patterns subset ⟨pattern, known, found⟩
    exact ⟨pattern, subset known, found⟩
  rcases List.mem_append.1 member with claimed | price
  · rcases List.mem_append.1 claimed with year | distance
    · exact wider Years.patterns (by simp [figurePatterns]) ((Years.isBuilt_read text).allowed year)
    · exact wider Mileage.patterns (by simp [figurePatterns])
        ((Mileage.isBuilt_read text).allowed distance)
  · exact wider Budget.patterns (by simp [figurePatterns]) (Budget.occurAt_of_mem_spans price)

/-- The words that figures begin with. -/
def openingWords : List String :=
  Years.leadWords ++ (Side.upper.firstWords ++ Side.lower.firstWords ++ ["between"])

theorem areWords_openingWords : areWords openingWords = true := by
  decide

/-- How a figure begins after a text, which is given back to front. -/
inductive Opens (before figure : Text) : Prop where
  /-- It begins with a digit, perhaps after a dollar sign. -/
  | digit {sign rest : Text} {c : Char} (isSign : IsSign sign) (isDigit : isWordDigit c = true)
      (whole : figure = sign ++ c :: rest) : Opens before figure
  /-- It begins with a word that white space follows. -/
  | word {lead : String} {rest : Text} {c : Char} (known : lead ∈ openingWords)
      (space : isWhiteSpace c = true) (whole : figure = lead.toList ++ c :: rest)
      (fresh : startsWithWord before = false) : Opens before figure

section Opens

variable {before after rest : Text}

theorem Opens.of_startsWithDigit {figure : Text} (starts : startsWithDigit figure = true) :
    Opens before figure := by
  cases figure with
  | nil => cases starts
  | cons c rest => exact .digit (.inl rfl) starts rfl

theorem Opens.of_word
    {lead : String}
    {gap : Text}
    (known : lead ∈ openingWords)
    (spaced : gap ≠ [])
    (blank : isBlank gap = true)
    (edge : atBoundary ⟨before, lead.toList ++ (gap ++ rest) ++ after⟩ = true) :
    Opens before (lead.toList ++ (gap ++ rest)) := by
  obtain ⟨c, more, rfl⟩ := List.exists_cons_of_ne_nil spaced
  refine .word known (isBlank_iff.1 blank c List.mem_cons_self) rfl ?_
  apply startsWithWord_eq_false_of_atBoundary edge
  rw [List.append_assoc]
  exact startsWithWord_name_append areWords_openingWords known _

theorem Opens.of_limit
    {side : Side}
    {limit gap : Text}
    (announces : side.Announces limit)
    (spaced : gap ≠ [])
    (blank : isBlank gap = true)
    (edge : atBoundary ⟨before, limit ++ (gap ++ rest) ++ after⟩ = true) :
    Opens before (limit ++ (gap ++ rest)) := by
  have listed : side.firstWords ⊆ openingWords := by cases side <;> decide
  cases announces with
  | @word name known =>
      exact .of_word (listed (List.mem_cons_of_mem _ known)) spaced blank edge
  | @than gap' spaced' blank' =>
      have shape : side.comparative.toList ++ (gap' ++ "than".toList) ++ (gap ++ rest) =
          side.comparative.toList ++ (gap' ++ ("than".toList ++ (gap ++ rest))) := by simp
      rw [shape] at edge ⊢
      exact .of_word (listed List.mem_cons_self) spaced' blank' edge

theorem Opens.append
    {figure : Text}
    (opens : Opens before figure)
    (more : Text) :
    Opens before (figure ++ more) := by
  cases opens with
  | digit isSign isDigit whole =>
      exact .digit isSign isDigit (by rw [whole, List.append_assoc]; rfl)
  | word known space whole fresh =>
      exact .word known space (by rw [whole, List.append_assoc]; rfl) fresh

end Opens

/-- Whether what a pattern takes at the edge of a word opens as figures do. -/
def OpensAtEdge (pattern : Pattern) : Prop :=
  ∀ before figure after : Text, atBoundary ⟨before, figure ++ after⟩ = true →
    pattern.Takes before figure after → Opens before figure

/-- Whether what a pattern takes opens as figures do. -/
def OpensAlways (pattern : Pattern) : Prop :=
  ∀ before figure after : Text, pattern.Takes before figure after → Opens before figure

section Patterns

variable {first : Pattern}

theorem OpensAtEdge.append
    (opens : OpensAtEdge first)
    (second : Pattern) :
    OpensAtEdge (first ++ second) := by
  rintro before _ after edge ⟨head, tail, rfl, takes, -⟩
  rw [List.append_assoc] at edge
  exact (opens before head _ edge takes).append tail

theorem OpensAlways.append
    (opens : OpensAlways first)
    (second : Pattern) :
    OpensAlways (first ++ second) := by
  rintro before _ after ⟨head, tail, rfl, takes, -⟩
  exact (opens before head _ takes).append tail

theorem OpensAtEdge.bounded (opens : OpensAtEdge first) : OpensAlways (bounded first) := by
  intro before figure after takes
  obtain ⟨edge, takes, -⟩ := takes_bounded.1 takes
  exact opens before figure after edge takes

theorem OpensAlways.atEdge (opens : OpensAlways first) : OpensAtEdge first :=
  fun before figure after _ takes => opens before figure after takes

end Patterns

theorem opensAtEdge_words {words : List String} (listed : words ⊆ openingWords) :
    OpensAtEdge (oneOf words ++ blank) := by
  rintro before _ after edge ⟨_, gap, rfl, isWord, isGap⟩
  obtain ⟨word, known, rfl⟩ := takes_oneOf.1 isWord
  obtain ⟨spaced, blank⟩ := takes_blank.1 isGap
  rw [← List.append_nil gap] at edge ⊢
  exact .of_word (listed known) spaced blank edge

theorem opensAtEdge_limit (side : Side) : OpensAtEdge (side.limit ++ blank) := by
  rintro before _ after edge ⟨limit, gap, rfl, isLimit, isGap⟩
  obtain ⟨spaced, blank⟩ := takes_blank.1 isGap
  rw [← List.append_nil gap] at edge ⊢
  exact .of_limit (Side.takes_limit.1 isLimit) spaced blank edge

theorem opensAlways_number (slot : Slot) : OpensAlways (number slot) := by
  intro before figure after takes
  have starts := (isNumber_of_takes takes).startsWithDigit []
  rw [List.append_nil] at starts
  exact .of_startsWithDigit starts

theorem opensAlways_year (slot : Slot) : OpensAlways (Years.year slot) := by
  intro before figure after takes
  have starts := (Years.isYear_of_takes takes).startsWithDigit []
  rw [List.append_nil] at starts
  exact .of_startsWithDigit starts

theorem opensAlways_money (slot scaleSlot : Slot) : OpensAlways (money slot scaleSlot) := by
  intro before figure after takes
  obtain ⟨sum, rfl, -⟩ := takes_money.1 takes
  obtain ⟨c, whole, fraction, shape, digit, -⟩ := sum.isNumber
  have whole' : sum.text = sum.sign ++ c :: (whole ++ fraction ++ sum.letter) := by
    rw [Sum.text, shape, List.append_assoc, List.cons_append, List.append_assoc]
  exact .digit sum.isSign digit whole'

/-! ## Every figure -/

theorem opensAlways_of_mem_years {pattern : Pattern} (known : pattern ∈ Years.patterns) :
    OpensAlways pattern := by
  have led : ∀ words ⊆ openingWords,
      OpensAlways (bounded (oneOf words ++ blank ++ Years.year .left)) :=
    fun _ listed => ((opensAtEdge_words listed).append _).bounded
  simp only [Years.patterns, List.mem_cons, List.not_mem_nil, or_false] at known
  rcases known with rfl | rfl | rfl | rfl
  · exact led ["after", "since", "from"] (by decide)
  · exact led ["before", "until"] (by decide)
  · exact (((opensAlways_year .left).append _).append _).atEdge.bounded
  · exact (opensAlways_year .left).atEdge.bounded

theorem opensAlways_of_mem_distances {pattern : Pattern} (known : pattern ∈ Mileage.patterns) :
    OpensAlways pattern := by
  have withUnit : ∀ side : Side, OpensAlways (Mileage.limitWithUnit side.limit) := fun side =>
    ((((((opensAtEdge_limit side).append _).append _).append _).append _).append _).bounded
  have inThousands : ∀ side : Side, OpensAlways (Mileage.limitInThousands side.limit) := fun side =>
    (((opensAtEdge_limit side).append _).append _).bounded
  simp only [Mileage.patterns, List.mem_cons, List.not_mem_nil, or_false] at known
  rcases known with rfl | rfl | rfl | rfl | rfl
  · exact ((((((opensAlways_number .left).append _).append _).append _).append _).append
      _).atEdge.bounded
  · exact withUnit .upper
  · exact withUnit .lower
  · exact inThousands .upper
  · exact inThousands .lower

theorem opensAlways_of_mem_prices {pattern : Pattern} (known : pattern ∈ Budget.patterns) :
    OpensAlways pattern := by
  have limited : ∀ side : Side, OpensAlways (Budget.limited side.limit) := by
    intro side before figure after takes
    obtain ⟨limit, rfl, edge, -⟩ := Budget.takes_limited.1 takes
    exact .of_limit limit.announces limit.spaced limit.blank edge
  simp only [Budget.patterns, List.mem_cons, List.not_mem_nil, or_false] at known
  rcases known with rfl | rfl | rfl | rfl
  · exact limited .upper
  · exact limited .lower
  · intro before figure after takes
    obtain ⟨range, rfl, -, edge, -⟩ := Budget.takes_between.1 takes
    have known : "between" ∈ openingWords := by decide
    have shape : range.text = "between".toList ++ (range.gap ++ (range.first.text ++
        (range.gap' ++ ("and".toList ++ range.gap'')) ++ range.second.text)) := by
      unfold BetweenText.text BetweenText.opening
      simp only [List.append_assoc]
    rw [shape] at edge ⊢
    exact .of_word known range.blank.1 range.blank.2 edge
  · exact ((opensAlways_money .left .leftScale).append _).append _ |>.append _

/-- Every figure opens with a digit or a word. -/
theorem opens_of_takes {pattern : Pattern} (known : pattern ∈ figurePatterns) :
    OpensAlways pattern := by
  rcases List.mem_append.1 known with year | known
  · exact opensAlways_of_mem_years year
  rcases List.mem_append.1 known with distance | price
  · exact opensAlways_of_mem_distances distance
  · exact opensAlways_of_mem_prices price

/-- A stretch that one of the patterns for figures takes. -/
def IsFigure {text : Text} (claim : Stretch text) : Prop :=
  ∃ pattern ∈ figurePatterns, pattern.Takes claim.before.reverse claim.body claim.after

/-- What has been claimed is the stretch of a figure. -/
theorem exists_isFigure
    {text : Text}
    {span : Span}
    (member : span ∈ figureSpans text) :
    ∃ claim : Stretch text, claim.span = span ∧ IsFigure claim := by
  obtain ⟨pattern, known, found, occurs, rfl⟩ := occurAt_of_mem_figureSpans member
  refine ⟨.ofMatch occurs, Stretch.span_ofMatch occurs, pattern, known, ?_⟩
  rw [Stretch.ofMatch, List.reverse_reverse]
  exact takes_of_mem_findAll occurs

theorem IsFigure.opens
    {text : Text}
    {claim : Stretch text}
    (figure : IsFigure claim) :
    Opens claim.before.reverse claim.body := by
  obtain ⟨pattern, known, takes⟩ := figure
  exact opens_of_takes known _ _ _ takes

/-- No figure holds what stands side by side in the name of a make. -/
theorem not_isChain_make :
    ∀ pattern ∈ figurePatterns, ∀ make ∈ Maker.makes,
      ¬make.toList.IsChain fun c d => areNeighbors pattern.neighbors c d = true := by
  decide +kernel

/-- No figure begins with a character of a make. -/
theorem not_opens_of_mem_make :
    ∀ make ∈ Maker.makes, ∀ c ∈ make.toList, c ≠ '$' ∧ isWordDigit c = false := by
  decide +kernel

/-- No word that begins a figure stands in a make where a word begins after its start. -/
theorem not_isPrefix_make :
    ∀ make ∈ Maker.makes, ∀ place < make.toList.length, 0 < place →
      startsWithWord (make.toList.take place).reverse = false →
        ∀ lead ∈ openingWords, ¬lead.toList <+: make.toList.drop place ∧
          ¬make.toList.drop place <+: lead.toList := by
  decide +kernel

section Makes

variable {text : Text} {claim name : Stretch text} {make : String} (figure : IsFigure claim)
  (known : make ∈ Maker.makes) (body : name.body = make.toList)

include figure known body

/-- No figure takes in a make. -/
theorem IsFigure.not_holds_make : ¬name.body <:+: claim.body := by
  rintro ⟨front, back, whole⟩
  obtain ⟨pattern, listed, takes⟩ := figure
  have chain := isChain_of_takes takes
  rw [← whole, body] at chain
  exact not_isChain_make pattern listed make known chain.left_of_append.right_of_append

/-- No figure begins within a make. -/
theorem IsFigure.eq_nil_of_begins_in_make
    {head rest : Text}
    (later : claim.before = name.before ++ head)
    (split : name.body = head ++ rest)
    (nonempty : rest ≠ [])
    (same : rest ++ name.after = claim.body ++ claim.after) :
    head = [] := by
  rw [body] at split
  cases figure.opens with
  | @digit sign others c isSign isDigit whole =>
      -- The figure would begin with a character of the make.
      obtain ⟨d, others', rfl⟩ := List.exists_cons_of_ne_nil nonempty
      obtain ⟨notSign, notDigit⟩ := not_opens_of_mem_make make known d (split ▸ by simp)
      rw [whole] at same
      rcases isSign with rfl | ⟨gap, rfl, -⟩
      · obtain ⟨rfl, -⟩ := List.cons.inj same
        exact absurd isDigit (by simp [notDigit])
      · obtain ⟨rfl, -⟩ := List.cons.inj same
        exact absurd rfl notSign
  | @word lead others c listed space whole fresh =>
      -- The figure would begin with a word, where a word begins within the make.
      by_contra further
      rw [later, List.reverse_append, startsWithWord_append (by simpa using further)] at fresh
      have parts : make.toList.take head.length = head ∧ make.toList.drop head.length = rest := by
        simp [split]
      have inside : head.length < make.toList.length := by
        have positive := List.length_pos_iff.2 nonempty
        rw [split, List.length_append]
        omega
      obtain ⟨notBefore, notAfter⟩ := not_isPrefix_make make known head.length inside
        (List.length_pos_iff.2 further) (parts.1.symm ▸ fresh) lead listed
      rw [parts.2] at notBefore notAfter
      rw [whole, List.append_assoc] at same
      rcases List.append_eq_append_iff.1 same with ⟨more, extended, -⟩ | ⟨more, extended, -⟩
      · exact notAfter ⟨more, extended.symm⟩
      · exact notBefore ⟨more, extended.symm⟩

/-- No figure begins before the end of a make and goes on after it. -/
theorem IsFigure.stop_le_of_start_lt
    (meets : claim.span.start < name.span.stop) :
    claim.span.stop ≤ name.span.stop := by
  by_contra beyond
  have within : name.span.start < claim.span.stop := by
    simp only [Stretch.span] at beyond ⊢
    omega
  have notPart := figure.not_holds_make known body
  rcases name.exists_rest_of_meets claim (Span.meets_iff.2 ⟨within, meets⟩) with
    ⟨head, rest, later, split, nonempty, same⟩ | ⟨head, rest, earlier, split, nonempty, same⟩
  · obtain rfl := figure.eq_nil_of_begins_in_make known body later split nonempty same
    rw [List.append_nil] at later
    rw [List.nil_append] at split
    rw [← split] at same
    rcases List.append_eq_append_iff.1 same with ⟨more, longer, -⟩ | ⟨more, shorter, -⟩
    · exact notPart ⟨[], more, longer.symm⟩
    · simp only [Stretch.span, later, shorter, byteLength_append] at beyond
      omega
  · rcases List.append_eq_append_iff.1 same with ⟨more, longer, -⟩ | ⟨more, shorter, -⟩
    · simp only [Stretch.span, earlier, split, longer, byteLength_append] at beyond
      omega
    · exact notPart ⟨head, more, by rw [split, shorter, List.append_assoc]⟩

end Makes

end Interpretation
end SearchPhrase
