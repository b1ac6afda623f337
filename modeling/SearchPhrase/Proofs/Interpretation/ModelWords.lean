import SearchPhrase.Interpretation
import SearchPhrase.Proofs.Phrase.Names
import SearchPhrase.Proofs.Phrase.Openings

/-!
# Models and figures

The name of a model is read without regard to the years, distances and prices of the phrase.  A word
of it shares a part of the phrase with one of these exactly when a figure begins in a word of the
name: with a digit of it, or with a word that it ends in and that does not end the name of a model.
-/

namespace SearchPhrase

open Cursor Figure Pattern Text Unicode

namespace ModelName

theorem isFiller_of_isWordDigit {c : Char} (digit : isWordDigit c = true) : isFiller c = false := by
  by_contra filler
  rw [Bool.not_eq_false] at filler
  rcases isFiller_iff.1 filler with space | punctuation
  · exact absurd (isWord_of_isWordDigit digit) (by simp [isWord_of_isWhiteSpace space])
  · simp only [isPunctuation, Bool.and_eq_true, decide_eq_true_eq, Bool.not_eq_true'] at punctuation
    obtain ⟨⟨-, low⟩, sign⟩ := punctuation
    have ascii : c.toNat < 128 := Nat.lt_of_le_of_lt (show c.toNat ≤ '~'.toNat from low) (by decide)
    rw [isWordDigit_ascii ascii] at digit
    simp [Char.isAlphanum, digit] at sign

end ModelName

/-- A make is read where its name stands. -/
theorem Maker.exists_stretch_of_read
    {text : Text}
    {mention : Mention}
    (isRead : mention ∈ read text) :
    ∃ make ∈ makes, ∃ name : Stretch text, name.span = mention.span ∧ name.body = make.toList := by
  obtain ⟨make, known, found⟩ := List.exists_of_findSome?_eq_some isRead
  obtain ⟨_, mentioned, rfl⟩ := Option.map_eq_some_iff.1 found
  obtain ⟨occurrence, first, rfl⟩ := Option.map_eq_some_iff.1 mentioned
  have member := mem_findAll_of_find? first
  refine ⟨make, known, .ofMatch member, Stretch.span_ofMatch member, ?_⟩
  obtain ⟨-, takes, -⟩ := takes_bounded.1 (takes_of_mem_findAll member)
  exact takes_literal.1 takes

namespace Interpretation

/-- The name that words make up, if there are any. -/
def joined : List Text → Option String
  | [] => none
  | words => some (String.ofList (List.intercalate [' '] words))

theorem atStart_eq_joined (text : Text) :
    ModelName.atStart text = joined (ModelName.takeWords ModelName.maxWords (words text)) := by
  unfold ModelName.atStart
  cases ModelName.takeWords ModelName.maxWords (words text) <;> rfl

/-- The stretches of a phrase in lower case that the name of its model is read from. -/
structure Spells (phrase : String) (names : List (Stretch (lowercase phrase.toList))) : Prop where
  /-- They make up the name. -/
  spelled : (ofPhrase phrase).filters.model = joined (names.map Stretch.body)
  /-- They stand one after another behind the make. -/
  placed : ∀ mention ∈ Maker.read (lowercase phrase.toList),
    ∃ before, byteLength before = mention.span.stop ∧ ModelName.Stand before names

theorem model_ofPhrase (phrase : String) :
    (ofPhrase phrase).filters.model =
      ModelName.read (lowercase phrase.toList) (Maker.read (lowercase phrase.toList)) :=
  rfl

/-- The name of the model is read from stretches of the phrase. -/
theorem exists_spells (phrase : String) : ∃ names, Spells phrase names := by
  cases isRead : Maker.read (lowercase phrase.toList) with
  | none =>
      refine ⟨[], ?_, by simp [isRead]⟩
      rw [model_ofPhrase, isRead]
      rfl
  | some mention =>
      obtain ⟨_, -, make, place, -⟩ := Maker.exists_stretch_of_read isRead
      have stop : byteLength (make.before ++ make.body) = mention.span.stop := by
        rw [← place, byteLength_append]
        rfl
      have whole : make.before ++ make.body ++ make.after = lowercase phrase.toList := by
        rw [List.append_assoc, make.whole]
      obtain ⟨names, stand, same⟩ := ModelName.exists_stand make.after ModelName.maxWords
        (make.before ++ make.body) whole
      refine ⟨names, ?_, ?_⟩
      · rw [same, ← atStart_eq_joined, model_ofPhrase, isRead]
        nth_rewrite 1 [← whole]
        rw [ModelName.read, Option.bind_eq_bind, Option.bind_some, ← stop,
          dropBytes_byteLength_append]
      · intro other isOther
        obtain rfl : mention = other := Option.some.inj (isRead.symm.trans isOther)
        exact ⟨make.before ++ make.body, stop, stand⟩

/-! ## Where figures begin -/

/-- The words that begin figures and do not end the name of a model. -/
def unstoppedWords : List String :=
  openingWords.filter fun word => !ModelName.stopWords.contains word

/-- How a figure begins in a word of a model name, or with a dollar sign before it. -/
inductive Begins {text : Text} (name claim : Stretch text) : Prop where
  /-- It begins with a digit in the word, perhaps after a dollar sign. -/
  | digit {head sign rest more : Text} {c : Char} (isSign : IsSign sign)
      (isDigit : isWordDigit c = true) (place : claim.before ++ sign = name.before ++ head)
      (within : name.body = head ++ c :: rest) (body : claim.body = sign ++ c :: more)
  /-- It begins with a word that the word ends in.  If they are the same, it does not end the name
  of a model. -/
  | word {lead : String} {head more : Text} {c : Char} (known : lead ∈ openingWords)
      (space : isWhiteSpace c = true) (fresh : startsWithWord head.reverse = false)
      (alone : head = [] → lead ∈ unstoppedWords) (place : claim.before = name.before ++ head)
      (within : name.body = head ++ lead.toList) (body : claim.body = lead.toList ++ c :: more)

section Begins

variable {text before gap : Text} {names : List (Stretch text)} {name claim : Stretch text}

theorem Begins.meets (begins : Begins name claim) : name.span.meets claim.span = true := by
  apply Span.meets_iff.2
  cases begins with
  | @digit head sign rest more c _ _ place within body =>
      have offsets := congrArg byteLength place
      have positive := c.utf8Size_pos
      simp only [Stretch.span, within, body, byteLength_append, byteLength_cons] at offsets ⊢
      omega
  | @word lead head more c known _ _ _ place within body =>
      have positive := c.utf8Size_pos
      have positive' := byteLength_pos (of_areWords areWords_openingWords known).1
      simp only [Stretch.span, place, within, body, byteLength_append, byteLength_cons]
      omega

/-- No word that begins a figure holds a character that may stand between words of a model name. -/
theorem isFiller_of_mem_openingWords :
    ∀ lead ∈ openingWords, ∀ c ∈ lead.toList, ModelName.isFiller c = false := by
  decide

/-- A word that a figure and a word of a model name begin with does not end the name of a model. -/
theorem mem_unstoppedWords
    {lead : String}
    (known : lead ∈ openingWords)
    (isName : ModelName.IsName name)
    (whole : name.body = lead.toList) :
    lead ∈ unstoppedWords := by
  have kept := isName.kept
  rw [whole, ModelName.endsModel, Bool.or_eq_false_iff] at kept
  refine List.mem_filter.2 ⟨known, ?_⟩
  rw [Bool.not_eq_true', List.contains_eq_any_beq, List.any_eq_false]
  intro stop listed same
  have other := List.any_eq_false.1 kept.1 stop listed
  rw [eq_of_beq same] at other
  exact other (by simp)

section Within

variable {head rest more : Text} {c : Char} (isName : ModelName.IsName name)
  (later : claim.before = name.before ++ head) (split : name.body = head ++ rest)

include isName later split

/-- A figure that begins with a digit within a word of a model name, or with a dollar sign, does so
with a digit of the word. -/
theorem begins_of_digit_within
    {sign : Text}
    (nonempty : rest ≠ [])
    (isSign : IsSign sign)
    (isDigit : isWordDigit c = true)
    (whole : claim.body = sign ++ c :: more)
    (same : rest ++ name.after = claim.body ++ claim.after) :
    Begins name claim := by
  obtain ⟨d, others, rfl⟩ := List.exists_cons_of_ne_nil nonempty
  rw [whole] at same
  rcases isSign with rfl | ⟨blanks, rfl, blank⟩
  · obtain ⟨rfl, -⟩ := List.cons.inj same
    exact .digit (.inl rfl) isDigit (by rw [later, List.append_nil]) split whole
  · -- The dollar sign does not end the word, so that the digit comes right after it.
    obtain ⟨rfl, following⟩ := List.cons.inj same
    cases others with
    | nil => exact absurd (isName.ends '$' (by rw [split]; simp)) (by decide)
    | cons e others =>
        cases blanks with
        | cons b blanks =>
            obtain ⟨rfl, -⟩ := List.cons.inj following
            have space := isBlank_iff.1 blank e List.mem_cons_self
            have solid := isName.solid e (by rw [split]; simp)
            simp [solid] at space
        | nil =>
            obtain ⟨rfl, -⟩ := List.cons.inj following
            exact .digit (.inr ⟨[], rfl, rfl⟩) isDigit
              (by rw [later, List.append_assoc] : claim.before ++ ['$'] = _ ++ (head ++ ['$']))
              (by rw [split, List.append_assoc]; rfl) whole

/-- A figure that begins with a word within a word of a model name begins with the end of it. -/
theorem begins_of_word_within
    {lead : String}
    (known : lead ∈ openingWords)
    (space : isWhiteSpace c = true)
    (whole : claim.body = lead.toList ++ c :: more)
    (fresh : startsWithWord claim.before.reverse = false)
    (same : rest ++ name.after = claim.body ++ claim.after) :
    Begins name claim := by
  rw [whole, List.append_assoc] at same
  have absent : c ∉ rest := fun member => by
    have solid := isName.solid c (by rw [split]; exact List.mem_append_right _ member)
    simp [solid] at space
  obtain ⟨part, extended, after⟩ := exists_of_append_cons absent same
  cases part with
  | cons e part =>
      -- The word of the model name would end before a letter.
      have filler := isName.closes e (by rw [after]; rfl)
      have letter := isFiller_of_mem_openingWords lead known e (by simp [extended])
      simp [letter] at filler
  | nil =>
      rw [List.append_nil] at extended
      refine .word known space ?_ ?_ later (by rw [split, extended]) whole
      · by_cases none : head = []
        · rw [none]
          rfl
        · rwa [later, List.reverse_append, startsWithWord_append (by simpa using none)] at fresh
      · rintro rfl
        exact mem_unstoppedWords known isName (by rw [split, extended, List.nil_append])

/-- A figure that begins within a word of a model name does so in one of the two ways. -/
theorem begins_of_within
    (figure : IsFigure claim)
    (nonempty : rest ≠ [])
    (same : rest ++ name.after = claim.body ++ claim.after) :
    Begins name claim := by
  cases figure.opens with
  | digit isSign isDigit whole =>
      exact begins_of_digit_within isName later split nonempty isSign isDigit whole same
  | word known space whole fresh =>
      exact begins_of_word_within isName later split known space whole fresh same

end Within

/-- A figure that begins between two words of a model name begins with a dollar sign before the
second. -/
theorem begins_of_between
    (figure : IsFigure claim)
    (isName : ModelName.IsName name)
    (earlier : name.before = claim.before ++ gap)
    (filler : ∀ c ∈ gap, ModelName.isFiller c = true)
    (nonempty : gap ≠ [])
    (same : gap ++ (name.body ++ name.after) = claim.body ++ claim.after) :
    Begins name claim := by
  obtain ⟨d, others, rfl⟩ := List.exists_cons_of_ne_nil nonempty
  cases figure.opens with
  | @digit sign more c isSign isDigit whole =>
      rw [whole, List.append_assoc] at same
      have absent : c ∉ d :: others := fun member => by
        simpa [ModelName.isFiller_of_isWordDigit isDigit] using filler c member
      obtain ⟨part, extended, after⟩ := exists_of_append_cons absent same
      obtain ⟨e, rest, body⟩ := List.exists_cons_of_ne_nil isName.nonempty
      rw [body] at after
      cases part with
      | cons b part =>
          -- The word would begin with white space after the dollar sign.
          obtain ⟨rfl, -⟩ := List.cons.inj after
          rcases isSign with rfl | ⟨blanks, rfl, blank⟩
          · cases extended
          · obtain ⟨-, rfl⟩ := List.cons.inj extended
            have space := isBlank_iff.1 blank e (by simp)
            simp [isName.solid e (by simp [body])] at space
      | nil =>
          obtain ⟨rfl, -⟩ := List.cons.inj after
          rw [List.append_nil] at extended
          exact .digit isSign isDigit (by rw [earlier, extended, List.append_nil]) body whole
  | @word lead more c known space whole fresh =>
      have visible := (of_areWords areWords_openingWords known).1
      obtain ⟨e, letters, shape⟩ := List.exists_cons_of_ne_nil visible
      rw [whole, shape] at same
      obtain ⟨rfl, -⟩ := List.cons.inj same
      have letter := isFiller_of_mem_openingWords lead known d (by simp [shape])
      simp [letter] at filler

/-- A figure that begins behind the words before a word of a model name, and before its end, begins
in that word. -/
theorem begins_of_lt
    (figure : IsFigure claim)
    (isName : ModelName.IsName name)
    (place : name.before = before ++ gap)
    (filler : ∀ c ∈ gap, ModelName.isFiller c = true)
    (later : byteLength before ≤ claim.span.start)
    (within : claim.span.start < name.span.stop) :
    Begins name claim := by
  have same := name.whole.trans claim.whole.symm
  rcases List.append_eq_append_iff.1 same with ⟨head, after, -⟩ | ⟨rest, earlier, tail⟩
  · obtain ⟨rest, split, nonempty, tail⟩ := Stretch.exists_rest_of_lt after within
    exact begins_of_within isName after split figure nonempty tail
  · by_cases none : rest = []
    · rw [none, List.append_nil] at earlier
      rw [none, List.nil_append] at tail
      exact begins_of_within isName (by rw [earlier, List.append_nil]) (List.nil_append _).symm
        figure isName.nonempty tail.symm
    refine begins_of_between figure isName earlier (fun c member => filler c ?_) none tail.symm
    rcases List.append_eq_append_iff.1 (place.symm.trans earlier) with
      ⟨part, -, split⟩ | ⟨part, split, shape⟩
    · rw [split]
      exact List.mem_append_right _ member
    · -- Nothing of what lies between belongs to the words before.
      rw [split, byteLength_append] at later
      have empty : part = [] := by
        by_contra there
        have positive := byteLength_pos there
        simp only [Stretch.span] at later
        omega
      rwa [shape, empty, List.nil_append] at member

/-- A figure that begins behind the make and meets a word of the model begins in such a word. -/
theorem exists_begins_of_meets
    (figure : IsFigure claim)
    (stand : ModelName.Stand before names)
    (later : byteLength before ≤ claim.span.start)
    (member : name ∈ names)
    (meets : name.span.meets claim.span = true) :
    ∃ name ∈ names, Begins name claim := by
  induction stand with
  | nil => cases member
  | @cons before gap first others place filler isName rest ih =>
      by_cases within : claim.span.start < first.span.stop
      · exact ⟨first, List.mem_cons_self, begins_of_lt figure isName place filler later within⟩
      · have beyond : first.span.stop ≤ claim.span.start := Nat.le_of_not_lt within
        rcases List.mem_cons.1 member with rfl | member
        · exact absurd (Span.meets_iff.1 meets).2 within
        · obtain ⟨next, known, begins⟩ := ih (by simpa [Stretch.span] using beyond) member
          exact ⟨next, List.mem_cons_of_mem _ known, begins⟩

/-- A word of a model name stands behind what comes before it. -/
theorem le_start_of_stand
    (stand : ModelName.Stand before names)
    (member : name ∈ names) :
    byteLength before ≤ name.span.start := by
  induction stand with
  | nil => cases member
  | @cons before gap first others place filler isName rest ih =>
      rcases List.mem_cons.1 member with rfl | member
      · simp [Stretch.span, place]
      · have behind := ih member
        rw [place] at behind
        simp only [byteLength_append] at behind
        omega

end Begins

/-- No make, no model. -/
theorem Spells.eq_nil
    {phrase : String}
    {names : List (Stretch (lowercase phrase.toList))}
    (spells : Spells phrase names)
    (none : Maker.read (lowercase phrase.toList) = none) :
    names = [] := by
  have same := spells.spelled
  rw [model_ofPhrase, none] at same
  cases names with
  | nil => rfl
  | cons name names => cases same

/-- A figure meets the name of the model exactly when it begins in one of its words. -/
theorem Spells.meets_iff
    {phrase : String}
    {names : List (Stretch (lowercase phrase.toList))}
    {claim : Stretch (lowercase phrase.toList)}
    (spells : Spells phrase names)
    (figure : IsFigure claim) :
    (∃ name ∈ names, name.span.meets claim.span = true) ↔ ∃ name ∈ names, Begins name claim := by
  constructor
  · rintro ⟨name, member, meets⟩
    cases isRead : Maker.read (lowercase phrase.toList) with
    | none =>
        rw [spells.eq_nil isRead] at member
        cases member
    | some mention =>
        obtain ⟨before, stop, stand⟩ := spells.placed mention isRead
        obtain ⟨known, listed, make, place, body⟩ := Maker.exists_stretch_of_read isRead
        refine exists_begins_of_meets figure stand ?_ member meets
        -- A figure that begins before the end of the make ends there too, before the model.
        by_contra early
        rw [stop, ← place] at early
        have apart := figure.stop_le_of_start_lt listed body (Nat.lt_of_not_le early)
        have behind := le_start_of_stand stand member
        have reaches := (Span.meets_iff.1 meets).1
        rw [place] at apart
        omega
  · rintro ⟨name, member, begins⟩
    exact ⟨name, member, begins.meets⟩

/-- For every phrase there are the stretches that the name of its model is read from, and a stretch
that years, distances and prices have claimed meets one of them exactly when the figure that it
holds begins in one of them. -/
theorem meets_model_iff (phrase : String) :
    (∃ names, Spells phrase names) ∧
      ∀ names, Spells phrase names →
        ∀ span ∈ figureSpans (lowercase phrase.toList),
          ∃ claim : Stretch (lowercase phrase.toList), claim.span = span ∧
            ((∃ name ∈ names, name.span.meets span = true) ↔
              ∃ name ∈ names, Begins name claim) := by
  refine ⟨exists_spells phrase, ?_⟩
  intro names spells span member
  obtain ⟨claim, rfl, figure⟩ := exists_isFigure member
  exact ⟨claim, rfl, spells.meets_iff figure⟩

/-- The years after a make, as a word of the name of its model. -/
def yearsName : Stretch (lowercase "toyota 2015-2020".toList) where
  before := "toyota ".toList
  body := "2015-2020".toList
  after := []
  whole := by decide +kernel

theorem spells_yearsName : Spells "toyota 2015-2020" [yearsName] := by
  refine ⟨by decide +kernel, ?_⟩
  have isRead : Maker.read (lowercase "toyota 2015-2020".toList) = some ⟨"Toyota", ⟨0, 6⟩⟩ := by
    decide +kernel
  intro mention isMention
  obtain rfl : (⟨"Toyota", ⟨0, 6⟩⟩ : Mention) = mention :=
    Option.some.inj (isRead.symm.trans isMention)
  have isName : ModelName.IsName yearsName :=
    ⟨by decide, by decide, by decide, by decide, by decide⟩
  exact ⟨"toyota".toList, rfl, .cons rfl (by decide) isName .nil⟩

theorem mem_figureSpans_years :
    ⟨7, 16⟩ ∈ figureSpans (lowercase "toyota 2015-2020".toList) := by
  decide +kernel

/-- The years begin in the name of the model. -/
theorem meets_model_iff_years :
    Spells "toyota 2015-2020" [yearsName] ∧
      ⟨7, 16⟩ ∈ figureSpans (lowercase "toyota 2015-2020".toList) ∧
        ∃ claim, claim.span = ⟨7, 16⟩ ∧ Begins yearsName claim := by
  obtain ⟨claim, place, meets_iff⟩ := (meets_model_iff "toyota 2015-2020").2 [yearsName]
    spells_yearsName ⟨7, 16⟩ mem_figureSpans_years
  obtain ⟨name, member, begins⟩ := meets_iff.1 ⟨yearsName, List.mem_cons_self, by decide +kernel⟩
  obtain rfl := List.mem_singleton.1 member
  exact ⟨spells_yearsName, mem_figureSpans_years, claim, place, begins⟩

/-- Whether no word of the name of the model lies inside or across what years, distances and prices
have claimed. -/
def ModelApart (phrase : String) : Prop :=
  ∀ names, Spells phrase names →
    ∀ span ∈ figureSpans (lowercase phrase.toList), ∀ name ∈ names, name.span.meets span = false

/-- A model without digits, no word of which ends as a figure begins, is apart from the figures. -/
theorem Spells.apart
    {phrase : String}
    {names : List (Stretch (lowercase phrase.toList))}
    (spells : Spells phrase names)
    (digitless : ∀ name ∈ names, ∀ c ∈ name.body, isWordDigit c = false)
    (wordless : ∀ name ∈ names, ∀ lead ∈ openingWords, ¬lead.toList <:+ name.body) :
    ∀ span ∈ figureSpans (lowercase phrase.toList),
      ∀ name ∈ names, name.span.meets span = false := by
  intro span member name known
  obtain ⟨claim, rfl, figure⟩ := exists_isFigure member
  by_contra meets
  rw [Bool.not_eq_false] at meets
  obtain ⟨other, listed, begins⟩ := (spells.meets_iff figure).1 ⟨name, known, meets⟩
  cases begins with
  | @digit _ _ _ _ c _ isDigit _ within _ =>
      have inName : c ∈ other.body := by rw [within]; exact List.mem_append_cons_self
      exact absurd isDigit (by simp [digitless other listed c inName])
  | word isLead _ _ _ _ within _ => exact wordless other listed _ isLead ⟨_, within.symm⟩

/-- The years after a make are claimed and make up the name of the model too. -/
theorem not_modelApart : ¬ModelApart "toyota 2015-2020" := by
  intro apart
  have disjoint := apart [yearsName] spells_yearsName ⟨7, 16⟩ mem_figureSpans_years yearsName
    List.mem_cons_self
  exact absurd disjoint (by decide +kernel)

end Interpretation
end SearchPhrase
