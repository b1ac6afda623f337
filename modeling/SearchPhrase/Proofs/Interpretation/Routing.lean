import SearchPhrase.Interpretation
import SearchPhrase.Proofs.Amount.Whole
import SearchPhrase.Proofs.Phrase.Context
import SearchPhrase.Proofs.Phrase.LoneLimit
import SearchPhrase.Proofs.Unicode.LowercaseParts

/-!
# Where a limit in thousands goes

The one figure of a phrase, a limit in thousands at its end, sets exactly one bound.  It is a
distance in a phrase about vehicles or mileage if it is large enough, and else a price.
-/

namespace SearchPhrase

open Pattern Text Unicode

/-- A bound on one side is all that is claimed where there is none on the other. -/
theorem Mileage.claim_only
    {side : Figure.Side}
    (bound? : Figure.Side → Option (UInt64 × Span))
    (others : ∀ other ≠ side, bound? other = none) :
    claimLower? (bound? .lower) (claimUpper? (bound? .upper) .nothing) =
      match bound? side with
      | none => .nothing
      | some (value, span) => ⟨side.bounds value, [span]⟩ := by
  cases side with
  | upper =>
      rw [others .lower (by decide)]
      cases bound? .upper <;> rfl
  | lower =>
      rw [others .upper (by decide)]
      cases bound? .lower <;> rfl

/-- Occurrences that end a text share its last byte. -/
theorem Match.meets_of_after_eq_nil
    {pattern other : Pattern}
    {text : Text}
    {found found' : Match}
    (member : found ∈ pattern.findAll text)
    (member' : found' ∈ other.findAll text)
    (last : found.after = [])
    (last' : found'.after = []) :
    found.span.meets found'.span = true := by
  have stops : ∀ {pattern : Pattern} {found : Match}, found ∈ pattern.findAll text →
      found.after = [] →
        found.span.start < byteLength text ∧ found.span.stop = byteLength text := by
    intro pattern found member last
    obtain ⟨whole, nonempty⟩ := whole_of_mem_findAll member
    have lengths := congrArg byteLength whole
    have positive := byteLength_pos nonempty
    simp only [last, List.append_nil, byteLength_append, byteLength_reverse] at lengths
    simp only [Match.span]
    omega
  obtain ⟨before, stop⟩ := stops member last
  obtain ⟨before', stop'⟩ := stops member' last'
  rw [Span.meets_iff, stop, stop']
  exact ⟨before, before'⟩

namespace Figure
namespace LoneLimit

variable {side : Side} {text : Text} (lone : LoneLimit side text)

include lone

/-- The limit is no year, and neither is anything else. -/
theorem read_years : Years.read text = .nothing := by
  have absent : ∀ pattern ∈ Years.patterns, pattern.findAll text = [] :=
    fun _ known => lone.findAll_years known
  have after := find?_eq_none (absent Years.afterYear (by simp [Years.patterns]))
  have before := find?_eq_none (absent Years.beforeYear (by simp [Years.patterns]))
  have pair := absent Years.yearPair (by simp [Years.patterns])
  have alone := absent Years.loneYear (by simp [Years.patterns])
  have first : Years.readAfter text .nothing = .nothing := by rw [Years.readAfter, after]
  have second : Years.readBefore text .nothing = .nothing := by rw [Years.readBefore, before]
  have third : Years.readPair text .nothing = .nothing := by
    rw [Years.readPair, pair, List.findSome?_nil]
  rw [Years.read, first, second, third, Years.readLone, alone, List.findSome?_nil, ite_self]

variable {value : UInt64} (reads : Amount.read? lone.digits (some ['k']) = some value)

theorem inThousands?_of_ne
    {other : Side}
    (apart : other ≠ side) :
    Mileage.inThousands? other.limit text = none := by
  cases first : (Mileage.limitInThousands other.limit).find? text with
  | none => simp [Mileage.inThousands?, first]
  | some found =>
      exact absurd (lone.of_mem_limitInThousands (List.mem_of_head? first)).1 apart

include reads

theorem exists_inThousands? :
    ∃ found ∈ (Mileage.limitInThousands side.limit).findAll text,
      Mileage.inThousands? side.limit text =
        if value < Mileage.bareFloor then none else some (value, found.span) := by
  obtain ⟨some, known⟩ := lone.exists_limitInThousands
  obtain ⟨found, first⟩ := exists_find?_eq_some known
  have member : found ∈ (Mileage.limitInThousands side.limit).findAll text :=
    List.mem_of_head? first
  obtain ⟨-, -, amount⟩ := lone.of_mem_limitInThousands member
  exact ⟨found, member, by simp [Mileage.inThousands?, first, amount, reads]⟩

/-- The limit is a distance in a phrase about vehicles, unless it is too small. -/
theorem read_mileage :
    (Mileage.hasContext text = true ∧ Mileage.bareFloor ≤ value ∧
        ∃ found ∈ (Mileage.limitInThousands side.limit).findAll text,
          Mileage.read text = ⟨side.bounds value, [found.span]⟩) ∨
      (¬(Mileage.hasContext text = true ∧ Mileage.bareFloor ≤ value) ∧
        Mileage.read text = .nothing) := by
  have orBelow : Mileage.readOrBelow text .nothing = .nothing := by
    rw [Mileage.readOrBelow, lone.findAll_orBelow]
    rfl
  have withUnit : ∀ other : Side, Mileage.withUnit? other.limit text = none := by
    intro other
    simp [Mileage.withUnit?, find?_eq_none (lone.findAll_limitWithUnit other)]
  have upper : Mileage.withUnit? atMost text = none := withUnit .upper
  have lower : Mileage.withUnit? atLeast text = none := withUnit .lower
  have bare : Mileage.read text = Mileage.readBare text .nothing := by
    rw [Mileage.read, orBelow, Mileage.readWithUnit, upper, lower]
    rfl
  obtain ⟨found, member, limit⟩ := lone.exists_inThousands? reads
  have claimed := Mileage.claim_only (fun other => Mileage.inThousands? other.limit text)
    fun other apart => lone.inThousands?_of_ne apart
  rw [limit] at claimed
  by_cases large : Mileage.hasContext text = true ∧ Mileage.bareFloor ≤ value
  · refine .inl ⟨large.1, large.2, found, member, ?_⟩
    rw [if_neg (UInt64.not_lt.2 large.2)] at claimed
    rw [bare, Mileage.readBare, large.1]
    exact claimed
  · refine .inr ⟨large, ?_⟩
    rw [bare, Mileage.readBare]
    split
    · next context =>
        have small : value < Mileage.bareFloor := by
          apply UInt64.not_le.1
          intro floor
          exact large ⟨(Bool.and_eq_true_iff.1 context).2, floor⟩
        rw [if_pos small] at claimed
        exact claimed
    · rfl

omit reads in
theorem limit?_of_ne
    {other : Side}
    (apart : other ≠ side)
    (claimed : List Span) :
    Budget.limit? other.limit claimed text = none := by
  apply List.findSome?_eq_none_iff.2
  intro found member
  exact absurd (lone.of_mem_limited member).1 apart

omit reads in
/-- The limit is no price where its end is claimed already. -/
theorem limit?_claimed
    {found : Match}
    (member : found ∈ (Mileage.limitInThousands side.limit).findAll text) :
    Budget.limit? side.limit [found.span] text = none := by
  apply List.findSome?_eq_none_iff.2
  intro other known
  have meets := Match.meets_of_after_eq_nil member known (lone.of_mem_limitInThousands member).2.1
    (lone.of_mem_limited known).2.1
  have claimed : other.span.meetsAny [found.span] = true := by
    simpa [Span.meetsAny] using meets
  exact if_pos claimed

/-- The limit is a price where nothing is claimed. -/
theorem limit?_open :
    ∃ span, Budget.limit? side.limit [] text = some (value, span) := by
  have all : ∀ found ∈ (Budget.limited side.limit).findAll text,
      Budget.unclaimed? [] found = some (value, found.span) := by
    intro found member
    have amount := (lone.of_mem_limited member).2.2
    simp [Budget.unclaimed?, Span.meetsAny, amount, reads]
  obtain ⟨found, member⟩ := lone.exists_limited
  cases findings : (Budget.limited side.limit).findAll text with
  | nil => simp [findings] at member
  | cons first others =>
      rw [findings] at all
      exact ⟨first.span, by rw [Budget.limit?, findings, List.findSome?_cons, all first (by simp)]⟩

omit reads in
/-- Prices are read of the limit alone, as far as it is not claimed. -/
theorem read_budget (claimed : List Span) :
    Budget.read claimed text =
      match Budget.limit? side.limit claimed text with
      | none => .nothing
      | some (value, span) => ⟨side.bounds value, [span]⟩ := by
  have range : ∀ reading, Budget.readRange claimed text reading = reading := by
    intro reading
    rw [Budget.readRange, lone.findAll_between, Budget.readBareRange, lone.findAll_bareRange]
    exact ite_self _
  rw [Budget.read, range]
  exact Mileage.claim_only (fun other => Budget.limit? other.limit claimed text)
    fun other apart => lone.limit?_of_ne apart claimed

/-- The limit is a distance in a phrase about vehicles if it is large enough, and else a price. -/
theorem bounds_eq :
    (Years.read text).bounds = .unbounded ∧
      if Mileage.hasContext text = true ∧ Mileage.bareFloor ≤ value then
        (Mileage.read text).bounds = side.bounds value ∧
          (Interpretation.openPrices text).bounds = .unbounded
      else (Mileage.read text).bounds = .unbounded ∧
        (Interpretation.openPrices text).bounds = side.bounds value := by
  refine ⟨by rw [lone.read_years]; rfl, ?_⟩
  rw [Interpretation.openPrices, Interpretation.claimedSpans, lone.read_years]
  rcases lone.read_mileage reads with ⟨context, floor, found, member, read⟩ | ⟨small, read⟩
  · rw [if_pos ⟨context, floor⟩, read, lone.read_budget]
    have claimed : (Reading.nothing : Reading UInt32).spans ++ [found.span] = [found.span] := rfl
    rw [claimed, lone.limit?_claimed member]
    exact ⟨rfl, rfl⟩
  · rw [if_neg small, read, lone.read_budget]
    obtain ⟨span, limit⟩ := lone.limit?_open reads
    have claimed : (Reading.nothing : Reading UInt32).spans ++
        (Reading.nothing : Reading UInt64).spans = [] := rfl
    rw [claimed, limit]
    exact ⟨rfl, rfl⟩

end LoneLimit
end Figure

namespace Interpretation

open Figure

/-- A phrase with a limit in thousands at its end. -/
def thousandsPhrase (text : Text) (keyword : String) (digits : Text) : Text :=
  text ++ ' ' :: (keyword.toList ++ ' ' :: (digits ++ ['k']))

variable {text digits : Text} {side : Side} {keyword : String}

theorem lowercase_thousandsPhrase
    (known : keyword ∈ side.keywords)
    (all : ∀ c ∈ digits, c.isDigit = true) :
    lowercase (thousandsPhrase text keyword digits) =
      thousandsPhrase (lowercase text) keyword digits := by
  have words : ∀ keyword ∈ side.keywords, ∀ c ∈ keyword.toList, c.toNat < 128 ∧ c.toLower = c := by
    cases side <;> decide
  have numerals : ∀ c ∈ digits, c.toNat < 128 ∧ c.toLower = c := by
    intro c member
    have ascii := ascii_of_isDigit (all c member)
    exact ⟨ascii, forall_ascii (P := fun c => c.isDigit = true → c.toLower = c) (by decide) ascii
      (all c member)⟩
  have ascii : ∀ c ∈ ' ' :: (keyword.toList ++ ' ' :: (digits ++ ['k'])),
      c.toNat < 128 ∧ c.toLower = c := by
    intro c member
    simp only [List.mem_cons, List.mem_append, List.not_mem_nil, or_false] at member
    rcases member with rfl | word | rfl | digit | rfl
    · decide
    · exact words keyword known c word
    · decide
    · exact numerals c digit
    · decide
  rw [thousandsPhrase, lowercase_append (by decide) fun c member => (ascii c member).1]
  rw [List.map_congr_left fun c member => (ascii c member).2, List.map_id']
  rfl

/-- The phrase in lower case ends in a limit and holds no other figure. -/
def loneLimit
    (free : ∀ c ∈ text, isDecimalDigit c = false)
    (known : keyword ∈ side.keywords)
    (nonempty : digits ≠ [])
    (all : ∀ c ∈ digits, c.isDigit = true) :
    LoneLimit side (thousandsPhrase (lowercase text) keyword digits) where
  lead := lowercase text ++ [' ']
  words := keyword.toList
  gap := [' ']
  digits := digits
  free := by
    intro c member
    rcases List.mem_append.1 member with member | member
    · apply Bool.eq_false_iff.2
      intro digit
      have decimal := (Bool.and_eq_true_iff.1 digit).1
      obtain ⟨d, known, other⟩ := isDecimalDigit_of_mem_lowercase member decimal
      simp [free d known] at other
    · rw [List.mem_singleton.1 member]
      decide
  fresh := by
    rw [List.reverse_append]
    exact (by decide : isWord ' ' = false)
  announces := Side.announces_of_mem_keywords known
  spaced := List.cons_ne_nil _ _
  blank := by decide
  nonempty := nonempty
  all := by
    intro c member
    rw [isWordDigit_ascii (ascii_of_isDigit (all c member))]
    exact all c member
  whole := by simp [thousandsPhrase]

/-- The limit says nothing about vehicles. -/
theorem hasContext_thousandsPhrase
    (known : keyword ∈ side.keywords)
    (nonempty : digits ≠ [])
    (all : ∀ c ∈ digits, c.isDigit = true)
    (lead : Text) :
    Mileage.hasContext (thousandsPhrase lead keyword digits) = Mileage.hasContext lead := by
  have words : ∀ keyword ∈ side.keywords, Mileage.hasContext keyword.toList = false := by
    cases side <;> decide +kernel
  have numerals : ∀ c ∈ digits, isWordDigit c = true := by
    intro c member
    rw [isWordDigit_ascii (ascii_of_isDigit (all c member))]
    exact all c member
  have figure : Mileage.hasContext (digits ++ ['k']) = false := by
    apply Mileage.hasContext_eq_false_of_digit
    · intro c member
      rcases List.mem_append.1 member with member | member
      · exact isWord_of_isWordDigit (numerals c member)
      · rw [List.mem_singleton.1 member]
        exact isWord_scale
    · exact (isNumber_of_digits nonempty numerals).startsWithDigit _
  have separates : isWord ' ' = false := by decide
  rw [thousandsPhrase, Mileage.hasContext_append separates, Mileage.hasContext_append separates,
    words keyword known, figure, Bool.or_false, Bool.or_false]

/-- A limit in thousands at the end of a phrase without other digits sets one bound and no other:
on its side of the distances in a phrase about vehicles or mileage if it is large enough, and on its
side of the prices otherwise. -/
theorem bounds_of_thousands
    (text : Text)
    (side : Side)
    (keyword : String)
    (digits : Text)
    (free : ∀ c ∈ text, isDecimalDigit c = false)
    (known : keyword ∈ side.keywords)
    (nonempty : digits ≠ [])
    (all : ∀ c ∈ digits, c.isDigit = true)
    (small : 1000 * Nat.ofDigitChars 10 digits 0 ≤ 2 ^ 53) :
    let filters := (ofPhrase (String.ofList (thousandsPhrase text keyword digits))).filters
    ∃ value : UInt64, value.toNat = 1000 * Nat.ofDigitChars 10 digits 0 ∧
      filters.year = .unbounded ∧
        if Mileage.hasContext (lowercase text) = true ∧ 50000 ≤ value.toNat then
          filters.odometer = side.bounds value ∧ filters.price = .unbounded
        else filters.odometer = .unbounded ∧ filters.price = side.bounds value := by
  intro filters
  have lower : lowercase (String.ofList (thousandsPhrase text keyword digits)).toList =
      thousandsPhrase (lowercase text) keyword digits := by
    rw [String.toList_ofList, lowercase_thousandsPhrase known all]
  have scaled : Nat.ofDigitChars 10 digits 0 * Amount.scale (some ['k']) =
      1000 * Nat.ofDigitChars 10 digits 0 := Nat.mul_comm _ _
  have reads := Amount.read?_digits nonempty all (scaled ▸ small)
  rw [scaled] at reads
  have exact : (UInt64.ofNat (1000 * Nat.ofDigitChars 10 digits 0)).toNat =
      1000 * Nat.ofDigitChars 10 digits 0 :=
    UInt64.toNat_ofNat_of_lt' (Nat.lt_of_le_of_lt small (by decide))
  obtain ⟨year, bounds⟩ := (loneLimit free known nonempty all).bounds_eq reads
  rw [hasContext_thousandsPhrase known nonempty all, ← lower] at bounds
  rw [← lower] at year
  exact ⟨_, exact, year, bounds⟩

/-- A large figure after two words of limit is a distance where there is a vehicle. -/
theorem bounds_of_thousands_wagons :
    let phrase := thousandsPhrase "Station wagons".toList "less than" "120".toList
    (ofPhrase (String.ofList phrase)).filters.odometer = { upper := some 120000 } ∧
      (ofPhrase (String.ofList phrase)).filters.price = .unbounded := by
  obtain ⟨value, exact, -, bounds⟩ := bounds_of_thousands "Station wagons".toList .upper
    "less than" "120".toList (by decide) (by decide) (by decide) (by decide) (by decide)
  have same : value = 120000 := UInt64.toNat_inj.1 (exact.trans (by decide))
  have context : Mileage.hasContext (lowercase "Station wagons".toList) = true := by
    decide +kernel
  subst same
  rwa [if_pos ⟨context, by decide⟩] at bounds

end Interpretation
end SearchPhrase
