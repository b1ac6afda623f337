import SearchPhrase.Proofs.Pattern.Folded
import SearchPhrase.Proofs.Pattern.Occurrences

/-!
# The longest text comes first

A search reports the preferred outcome of a pattern.  In most patterns a part can only be taken
shorter where the next part cannot go on, so that the outcomes run from the longest to the shortest
and the occurrence that is reported is the longest one at its place.  A check along the pattern
finds out whether this is so.
-/

namespace SearchPhrase

open Unicode

namespace CharClass

/-- The classes that a class is put together from. -/
def parts : CharClass → List CharClass
  | either left right => left.parts ++ right.parts
  | cls => [cls]

theorem accepts_iff_parts {cls : CharClass} {c : Char} :
    cls.accepts c = true ↔ ∃ part ∈ cls.parts, part.accepts c = true := by
  induction cls with
  | either left right ihLeft ihRight =>
      simp only [accepts, parts, Bool.or_eq_true, ihLeft, ihRight, List.mem_append, or_and_right,
        exists_or]
  | _ => simp [parts]

/-- The characters that fold to the same one as a given character. -/
def spellings (c : Char) : List Char :=
  [foldCase c, (foldCase c).toUpper, Char.ofNat 0x212A, Char.ofNat 0x17F].filter fun d =>
    foldCase c = foldCase d

theorem mem_spellings {c d : Char} (same : foldCase c = foldCase d) : d ∈ spellings c := by
  have spelled : d = foldCase d ∨ d = (foldCase d).toUpper ∨ d = Char.ofNat 0x212A ∨
      d = Char.ofNat 0x17F := by
    unfold foldCase
    split
    · next kelvin => exact .inr (.inr (.inl kelvin))
    · split
      · next longS => exact .inr (.inr (.inr longS))
      · by_cases low : d.toNat < 128
        · have ascii := forall_ascii (P := fun d => d = d.toLower ∨ d = d.toLower.toUpper)
            (by decide) low
          exact ascii.elim .inl fun upper => .inr (.inl upper)
        · exact .inl (Text.toLower_of_not_ascii low).symm
  rw [spellings, List.mem_filter, same]
  simpa using spelled

/-- All characters of a class, if they are only a few. -/
def members? : CharClass → Option (List Char)
  | only c => some [c]
  | folded c => some (spellings c)
  | _ => none

theorem mem_of_members?
    {cls : CharClass}
    {chars : List Char}
    {c : Char}
    (few : cls.members? = some chars)
    (accepted : cls.accepts c = true) :
    c ∈ chars := by
  cases cls with
  | only d =>
      cases few
      exact List.mem_singleton.2 (beq_iff_eq.1 accepted).symm
  | folded d =>
      cases few
      exact mem_spellings (beq_iff_eq.1 accepted)
  | _ => cases few

/-- Whether no character belongs to both of two classes, neither of which is put together from
others. -/
def areApart (first second : CharClass) : Bool :=
  match first.members?, second.members? with
  | some chars, _ => chars.all fun c => !second.accepts c
  | none, some chars => chars.all fun c => !first.accepts c
  | none, none => (first = digit && second = space) || (first = space && second = digit)

theorem not_accepts_of_areApart
    {first second : CharClass}
    {c : Char}
    (apart : areApart first second = true)
    (accepted : first.accepts c = true) :
    second.accepts c = false := by
  rw [← Bool.not_eq_true]
  intro accepted'
  unfold areApart at apart
  cases few : first.members? with
  | some chars =>
      rw [few] at apart
      have refused := List.all_eq_true.1 apart c (mem_of_members? few accepted)
      simp [accepted'] at refused
  | none =>
      cases few' : second.members? with
      | some chars =>
          rw [few, few'] at apart
          have refused := List.all_eq_true.1 apart c (mem_of_members? few' accepted')
          simp [accepted] at refused
      | none =>
          -- Of a digit and white space, neither is the other.
          rw [few, few'] at apart
          have unlike : ∀ {c : Char}, isWhiteSpace c = true → isWordDigit c ≠ true := by
            intro c space digit
            rw [isWordDigit_of_isWhiteSpace space] at digit
            cases digit
          simp only [Bool.or_eq_true, Bool.and_eq_true, decide_eq_true_eq] at apart
          rcases apart with ⟨rfl, rfl⟩ | ⟨rfl, rfl⟩
          · exact unlike accepted' accepted
          · exact unlike accepted accepted'

/-- Whether no character belongs to a class of one list and to one of another. -/
def allApart (classes others : List CharClass) : Bool :=
  classes.all fun cls => others.all (areApart cls)

end CharClass

namespace Pattern

open CharClass

/-- Whether a text begins with a character of one of several classes. -/
def BeginsIn (classes : List CharClass) (text : Text) : Prop :=
  ∃ c ∈ text.head?, ∃ cls ∈ classes, cls.accepts c = true

theorem BeginsIn.mono
    {classes others : List CharClass}
    {text : Text}
    (begins : BeginsIn classes text)
    (subset : classes ⊆ others) :
    BeginsIn others text := by
  obtain ⟨c, first, cls, known, accepted⟩ := begins
  exact ⟨c, first, cls, subset known, accepted⟩

theorem BeginsIn.not_of_allApart
    {classes others : List CharClass}
    {text : Text}
    (apart : allApart classes others = true)
    (begins : BeginsIn classes text) :
    ¬BeginsIn others text := by
  obtain ⟨c, first, cls, known, accepted⟩ := begins
  rintro ⟨d, first', other, known', accepted'⟩
  rw [Option.mem_def] at first first'
  rw [first] at first'
  cases first'
  have checked := List.all_eq_true.1 (List.all_eq_true.1 apart cls known) other known'
  rw [not_accepts_of_areApart checked accepted] at accepted'
  cases accepted'

/-- The classes of the first character of a text that a pattern takes. -/
def starts : Pattern → List CharClass
  | char cls => cls.parts
  | seq first second => if first.isVisible then first.starts else first.starts ++ second.starts
  | alt preferred fallback => preferred.starts ++ fallback.starts
  | run cls => cls.parts
  | capture _ body => body.starts
  | _ => []

theorem beginsIn_starts
    {pattern : Pattern}
    {before text after : Text}
    (takes : pattern.Takes before text after)
    (nonempty : text ≠ []) :
    BeginsIn pattern.starts text := by
  induction pattern generalizing before text after with
  | never => exact absurd takes id
  | empty => exact absurd takes nonempty
  | char cls =>
      obtain ⟨c, rfl, accepted⟩ := takes
      exact ⟨c, rfl, accepts_iff_parts.1 accepted⟩
  | seq first second ihFirst ihSecond =>
      obtain ⟨head, tail, rfl, takesHead, takesTail⟩ := takes
      rw [starts]
      by_cases none : head = []
      · subst none
        rw [List.nil_append] at nonempty ⊢
        rw [if_neg fun visible => ne_nil_of_isVisible visible takesHead rfl]
        exact (ihSecond takesTail nonempty).mono (List.subset_append_right _ _)
      · obtain ⟨c, isFirst, cls, known, accepted⟩ := ihFirst takesHead none
        refine ⟨c, ?_, cls, ?_, accepted⟩
        · rw [Option.mem_def] at isFirst ⊢
          rw [List.head?_append, isFirst, Option.some_or]
        · split
          · exact known
          · exact List.mem_append_left _ known
  | alt preferred fallback ihPreferred ihFallback =>
      rcases takes with takes | takes
      · exact (ihPreferred takes nonempty).mono (List.subset_append_left _ _)
      · exact (ihFallback takes nonempty).mono (List.subset_append_right _ _)
  | run cls =>
      obtain ⟨c, rest, rfl⟩ := List.exists_cons_of_ne_nil nonempty
      exact ⟨c, rfl, accepts_iff_parts.1 (takes c List.mem_cons_self)⟩
  | boundary => exact absurd takes.1 nonempty
  | capture slot body ih => exact ih takes nonempty

/-- The classes of what may come right after a text that a pattern takes though it could take a
longer one. -/
def yields : Pattern → List CharClass
  | seq first second => if second.isVisible then second.yields else first.yields ++ second.yields
  | alt preferred fallback => preferred.starts ++ (preferred.yields ++ fallback.yields)
  | run cls => cls.parts
  | capture _ body => body.yields
  | _ => []

/-- Whether the outcomes of a pattern run from the longest to the shortest, as far as the first
characters of its parts tell. -/
def isOrdered : Pattern → Bool
  | seq first second =>
      first.isOrdered && second.isOrdered && allApart first.yields second.starts
  | alt preferred fallback =>
      preferred.isOrdered && fallback.isOrdered && preferred.isVisible &&
        allApart preferred.starts fallback.starts
  | capture _ body => body.isOrdered
  | _ => true

/-- Whether one outcome is longer than another, after which the text goes on with a character of one
of several classes. -/
def Outlasts (classes : List CharClass) (longer shorter : Outcome) : Prop :=
  longer.cursor.after.length < shorter.cursor.after.length ∧
    BeginsIn classes shorter.cursor.after

theorem pairwise_runEndsBefore
    {cls : CharClass}
    {nearer : List Cursor}
    {before after : Text}
    (ordered : nearer.Pairwise fun far near => far.after.length < near.after.length ∧
      BeginsIn cls.parts near.after)
    (beyond : ∀ near ∈ nearer, after.length < near.after.length ∧ BeginsIn cls.parts near.after) :
    (Cursor.runEndsBefore cls nearer before after).Pairwise fun far near =>
      far.after.length < near.after.length ∧ BeginsIn cls.parts near.after := by
  induction after generalizing nearer before with
  | nil => exact List.pairwise_cons.2 ⟨beyond, ordered⟩
  | cons c rest ih =>
      rw [Cursor.runEndsBefore]
      split
      · next accepted =>
          refine ih (List.pairwise_cons.2 ⟨beyond, ordered⟩) fun near member => ?_
          rcases List.mem_cons.1 member with rfl | member
          · exact ⟨Nat.lt_succ_self _, c, rfl, accepts_iff_parts.1 accepted⟩
          · have longer := beyond near member
            exact ⟨Nat.lt_of_succ_lt longer.1, longer.2⟩
      · exact List.pairwise_cons.2 ⟨beyond, ordered⟩

theorem Outlasts.mono
    {classes others : List CharClass}
    {longer shorter : Outcome}
    (outlasts : Outlasts classes longer shorter)
    (subset : classes ⊆ others) :
    Outlasts others longer shorter :=
  ⟨outlasts.1, outlasts.2.mono subset⟩

/-- An outcome stays at the place where it starts, or goes on from there by a character that the
pattern may begin with. -/
theorem eq_or_beginsIn_of_mem_outcomes
    {pattern : Pattern}
    {start stop : Outcome}
    (member : stop ∈ pattern.outcomes start) :
    (stop.cursor = start.cursor ∧ pattern.isVisible = false) ∨
      (stop.cursor.after.length < start.cursor.after.length ∧
        BeginsIn pattern.starts start.cursor.after) := by
  obtain ⟨text, after, before⟩ := reaches_of_mem_outcomes member
  have takes := takes_of_mem_outcomes member after before
  by_cases none : text = []
  · subst none
    refine .inl ⟨?_, ?_⟩
    · cases place : stop.cursor
      cases place' : start.cursor
      simp_all
    · rw [← Bool.not_eq_true]
      exact fun visible => ne_nil_of_isVisible visible takes rfl
  · right
    obtain ⟨c, first, cls, known, accepted⟩ := beginsIn_starts takes none
    have positive := List.length_pos_iff.2 none
    refine ⟨by rw [after, List.length_append]; omega, c, ?_, cls, known, accepted⟩
    rw [Option.mem_def] at first ⊢
    rw [after, List.head?_append, first, Option.some_or]

/-- One part after another is ordered if from the shorter of two first parts, the second part cannot
go on at all. -/
theorem pairwise_outcomes_seq
    {first second : Pattern}
    (ordered : ∀ start, (first.outcomes start).Pairwise (Outlasts first.yields))
    (ordered' : ∀ start, (second.outcomes start).Pairwise (Outlasts second.yields))
    (apart : allApart first.yields second.starts = true)
    (start : Outcome) :
    ((seq first second).outcomes start).Pairwise (Outlasts (seq first second).yields) := by
  have subset : second.yields ⊆ (seq first second).yields := by
    rw [yields]
    split
    · exact List.Subset.refl _
    · exact List.subset_append_right _ _
  rw [outcomes, List.pairwise_flatMap]
  refine ⟨fun middle _ => (ordered' middle).imp fun outlasts => outlasts.mono subset,
    (ordered start).imp ?_⟩
  intro longer shorter outlasts stop reached stop' reached'
  have within := (reaches_of_mem_outcomes reached).length_after_le
  rcases eq_or_beginsIn_of_mem_outcomes reached' with ⟨same, invisible⟩ | ⟨-, begins⟩
  · rw [Outlasts, same, yields, invisible]
    exact ⟨Nat.lt_of_le_of_lt within outlasts.1, outlasts.2.mono (List.subset_append_left _ _)⟩
  · exact absurd begins (outlasts.2.not_of_allApart apart)

/-- Two alternatives are ordered if the second one cannot go on where the first one does. -/
theorem pairwise_outcomes_alt
    {preferred fallback : Pattern}
    (ordered : ∀ start, (preferred.outcomes start).Pairwise (Outlasts preferred.yields))
    (ordered' : ∀ start, (fallback.outcomes start).Pairwise (Outlasts fallback.yields))
    (visible : preferred.isVisible = true)
    (apart : allApart preferred.starts fallback.starts = true)
    (start : Outcome) :
    ((alt preferred fallback).outcomes start).Pairwise
      (Outlasts (alt preferred fallback).yields) := by
  have subset : preferred.yields ⊆ (alt preferred fallback).yields := fun _ member =>
    List.mem_append_right _ (List.mem_append_left _ member)
  have subset' : fallback.yields ⊆ (alt preferred fallback).yields := fun _ member =>
    List.mem_append_right _ (List.mem_append_right _ member)
  rw [outcomes, List.pairwise_append]
  refine ⟨(ordered start).imp fun outlasts => outlasts.mono subset,
    (ordered' start).imp fun outlasts => outlasts.mono subset', ?_⟩
  intro stop reached stop' reached'
  obtain ⟨less, begins⟩ := (eq_or_beginsIn_of_mem_outcomes reached).resolve_left (by simp [visible])
  rcases eq_or_beginsIn_of_mem_outcomes reached' with ⟨same, -⟩ | ⟨-, begins'⟩
  · rw [Outlasts, same]
    exact ⟨less, begins.mono (List.subset_append_left _ _)⟩
  · exact absurd begins' (begins.not_of_allApart apart)

/-- The outcomes of an ordered pattern get shorter and shorter, and the text goes on after each but
the first by a character that the pattern could take more of. -/
theorem pairwise_outcomes
    {pattern : Pattern}
    (ordered : pattern.isOrdered = true)
    (start : Outcome) :
    (pattern.outcomes start).Pairwise (Outlasts pattern.yields) := by
  induction pattern generalizing start with
  | never => exact .nil
  | empty => exact List.pairwise_singleton _ _
  | char cls =>
      rw [outcomes]
      cases start.cursor.step? cls with
      | none => exact .nil
      | some cursor => exact List.pairwise_singleton _ _
  | seq first second ihFirst ihSecond =>
      simp only [isOrdered, Bool.and_eq_true] at ordered
      obtain ⟨⟨orderedFirst, orderedSecond⟩, apart⟩ := ordered
      exact pairwise_outcomes_seq (ihFirst orderedFirst) (ihSecond orderedSecond) apart start
  | alt preferred fallback ihPreferred ihFallback =>
      simp only [isOrdered, Bool.and_eq_true] at ordered
      obtain ⟨⟨⟨orderedPreferred, orderedFallback⟩, visible⟩, apart⟩ := ordered
      exact pairwise_outcomes_alt (ihPreferred orderedPreferred) (ihFallback orderedFallback)
        visible apart start
  | run cls =>
      rw [outcomes, List.pairwise_map]
      exact pairwise_runEndsBefore .nil fun _ member => absurd member List.not_mem_nil
  | boundary =>
      rw [outcomes]
      split
      · exact List.pairwise_singleton _ _
      · exact .nil
  | capture slot body ih =>
      rw [outcomes, List.pairwise_map]
      exact ih ordered start

/-- What comes first of several lists put together comes from a list no later than any that is not
empty. -/
theorem exists_of_head?_flatMap
    {α β : Type}
    {precedes : α → α → Prop}
    {members : List α}
    {expand : α → List β}
    {member : α}
    {first : β}
    (ordered : members.Pairwise precedes)
    (known : member ∈ members)
    (nonempty : expand member ≠ [])
    (isFirst : (members.flatMap expand).head? = some first) :
    ∃ source, first ∈ expand source ∧ (source = member ∨ precedes source member) := by
  induction members with
  | nil => exact absurd known List.not_mem_nil
  | cons other members ih =>
      obtain ⟨before, ordered⟩ := List.pairwise_cons.1 ordered
      rw [List.flatMap_cons] at isFirst
      by_cases none : expand other = []
      · rw [none, List.nil_append] at isFirst
        rcases List.mem_cons.1 known with rfl | known
        · exact absurd none nonempty
        · exact ih ordered known isFirst
      · rw [List.head?_append, List.head?_eq_some_head none, Option.some_or] at isFirst
        refine ⟨other, ?_, ?_⟩
        · rw [← Option.some.inj isFirst]
          exact List.head_mem none
        · rcases List.mem_cons.1 known with rfl | known
          · exact .inl rfl
          · exact .inr (before member known)

section Occurrence

variable {first second : Pattern} {before head tail after : Text} {found : Match}

/-- An occurrence is as long as anything that an ordered first part of its pattern takes at the
place, provided that the rest can be taken after it. -/
theorem length_le_of_takes_append
    (ordered : first.isOrdered = true)
    (takes : first.Takes before head (tail ++ after))
    (takes' : second.Takes (head.reverse ++ before) tail after)
    (matched : (first ++ second).matchAt? ⟨before, head ++ (tail ++ after)⟩ = some found) :
    head.length ≤ found.text.length := by
  obtain ⟨stop, text, isFirst, -, whole, -, rfl⟩ := exists_outcome_of_matchAt? matched
  obtain ⟨middle, known, place'⟩ := exists_outcome_of_takes takes []
  obtain ⟨cursor, captures⟩ := middle
  obtain rfl : cursor = _ := place'
  obtain ⟨last, reached, -⟩ := exists_outcome_of_takes takes' captures
  obtain ⟨source, member, earlier⟩ := exists_of_head?_flatMap (pairwise_outcomes ordered _) known
    (List.ne_nil_of_mem reached) isFirst
  have shorter : source.cursor.after.length ≤ (tail ++ after).length := by
    rcases earlier with rfl | outlasts
    · exact Nat.le_refl _
    · exact Nat.le_of_lt outlasts.1
  have within := (reaches_of_mem_outcomes member).length_after_le
  have lengths := congrArg List.length whole
  simp only [List.length_append] at lengths shorter ⊢
  omega

/-- An occurrence of an ordered pattern is as long as anything the pattern takes at the place. -/
theorem length_le_of_takes
    {pattern : Pattern}
    (ordered : pattern.isOrdered = true)
    (takes : pattern.Takes before head after)
    (matched : pattern.matchAt? ⟨before, head ++ after⟩ = some found) :
    head.length ≤ found.text.length := by
  have matched : (pattern ++ empty).matchAt? ⟨before, head ++ ([] ++ after)⟩ = some found := by
    have same : ∀ start, (pattern ++ empty).outcomes start = pattern.outcomes start := fun start =>
      (List.flatMap_singleton' _)
    unfold matchAt? at matched ⊢
    rwa [same]
  have nothing : empty.Takes (head.reverse ++ before) [] after := rfl
  exact length_le_of_takes_append ordered takes nothing matched

/-- What a search for an ordered pattern finds is as long as anything the pattern takes there. -/
theorem length_le_of_mem
    {pattern : Pattern}
    {text : Text}
    (ordered : pattern.isOrdered = true)
    (member : found ∈ pattern.findAll text)
    (takes : pattern.Takes found.before head after)
    (same : head ++ after = found.text ++ found.after) :
    head.length ≤ found.text.length := by
  obtain ⟨cursor, -, matched⟩ := matchAt?_of_mem_findAll member
  obtain ⟨before, rest, -⟩ := eq_of_matchAt? matched
  have place : cursor = ⟨found.before, head ++ after⟩ := by
    rw [same, before, rest]
  exact length_le_of_takes ordered takes (place ▸ matched)

/-- Between edges of words, a body of two parts may as well be taken as one part after another. -/
theorem matchAt?_bounded_append (first second : Pattern) (cursor : Cursor) :
    (bounded (first ++ second)).matchAt? cursor =
      ((boundary ++ first) ++ (second ++ boundary)).matchAt? cursor := by
  have assoc : ∀ (first second third : Pattern) (start : Outcome),
      ((first ++ second) ++ third).outcomes start = (first ++ (second ++ third)).outcomes start :=
    fun _ _ _ _ => List.flatMap_assoc
  have inner : ∀ start, (boundary ++ (first ++ second)).outcomes start =
      ((boundary ++ first) ++ second).outcomes start := fun start => (assoc _ _ _ start).symm
  have same : (bounded (first ++ second)).outcomes ⟨cursor, []⟩ =
      ((boundary ++ first) ++ (second ++ boundary)).outcomes ⟨cursor, []⟩ := by
    rw [← assoc]
    exact congrArg (List.flatMap boundary.outcomes) (inner _)
  unfold matchAt?
  rw [same]

end Occurrence

end Pattern
end SearchPhrase
