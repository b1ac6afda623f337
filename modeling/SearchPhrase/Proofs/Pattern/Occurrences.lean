import SearchPhrase.Proofs.Pattern.Pieces

/-!
# Places that a search does not pass over

A pattern that never takes the empty text has an occurrence wherever it can take anything.  A search
finds an occurrence at each such place, or one that takes the place in.
-/

namespace SearchPhrase
namespace Pattern

/-- Whether a pattern takes no empty text, as far as its form tells. -/
def isVisible : Pattern → Bool
  | never => true
  | empty => false
  | char _ => true
  | seq first second => first.isVisible || second.isVisible
  | alt preferred fallback => preferred.isVisible && fallback.isVisible
  | run _ => false
  | boundary => false
  | capture _ body => body.isVisible

theorem ne_nil_of_isVisible
    {pattern : Pattern}
    {before text after : Text}
    (visible : pattern.isVisible = true)
    (takes : pattern.Takes before text after) :
    text ≠ [] := by
  induction pattern generalizing before text after with
  | never => exact takes.elim
  | empty => simp [isVisible] at visible
  | char cls =>
      obtain ⟨c, rfl, -⟩ := takes
      exact List.cons_ne_nil c []
  | seq first second ihFirst ihSecond =>
      obtain ⟨head, tail, rfl, takesHead, takesTail⟩ := takes
      rw [isVisible, Bool.or_eq_true] at visible
      rcases visible with visible | visible
      · exact List.append_ne_nil_of_left_ne_nil (ihFirst visible takesHead) tail
      · exact List.append_ne_nil_of_right_ne_nil head (ihSecond visible takesTail)
  | alt preferred fallback ihPreferred ihFallback =>
      rw [isVisible, Bool.and_eq_true] at visible
      rcases takes with takes | takes
      · exact ihPreferred visible.1 takes
      · exact ihFallback visible.2 takes
  | run cls => simp [isVisible] at visible
  | boundary => simp [isVisible] at visible
  | capture slot body ih => exact ih visible takes

theorem isVisible_literal {phrase : String} (nonempty : phrase.toList ≠ []) :
    (literal phrase).isVisible = true := by
  unfold literal
  obtain ⟨c, rest, shape⟩ := List.exists_cons_of_ne_nil nonempty
  rw [shape]
  rfl

theorem isVisible_anyOf
    {patterns : List Pattern}
    (visible : ∀ pattern ∈ patterns, pattern.isVisible = true) :
    (anyOf patterns).isVisible = true := by
  induction patterns with
  | nil => rfl
  | cons pattern patterns ih =>
      have first := visible pattern List.mem_cons_self
      have others := ih fun other member => visible other (List.mem_cons_of_mem _ member)
      cases patterns with
      | nil => exact first
      | cons next patterns => exact Bool.and_eq_true_iff.2 ⟨first, others⟩

theorem isVisible_oneOf
    {phrases : List String}
    (nonempty : ∀ phrase ∈ phrases, phrase.toList ≠ []) :
    (oneOf phrases).isVisible = true :=
  isVisible_anyOf (List.forall_mem_map.2 fun phrase member =>
    isVisible_literal (nonempty phrase member))

theorem isVisible_bounded (body : Pattern) : (bounded body).isVisible = body.isVisible :=
  Bool.or_false _

theorem isVisible_ignoreCase (pattern : Pattern) :
    pattern.ignoreCase.isVisible = pattern.isVisible := by
  induction pattern with
  | seq first second ihFirst ihSecond => rw [ignoreCase, isVisible, isVisible, ihFirst, ihSecond]
  | alt preferred fallback ihPreferred ihFallback =>
      rw [ignoreCase, isVisible, isVisible, ihPreferred, ihFallback]
  | capture slot body ih => exact ih
  | _ => rfl

/-- A visible pattern that takes a text at a place has an occurrence there. -/
theorem exists_matchAt?
    {pattern : Pattern}
    {before text after : Text}
    (visible : pattern.isVisible = true)
    (takes : pattern.Takes before text after) :
    ∃ found, pattern.matchAt? ⟨before, text ++ after⟩ = some found := by
  obtain ⟨stop, member, -⟩ := exists_outcome_of_takes takes []
  obtain ⟨first, preferred⟩ :=
    Option.isSome_iff_exists.1 (List.isSome_head?.2 (List.ne_nil_of_mem member))
  have reached := List.mem_of_head? preferred
  have reaches : Cursor.Reaches ⟨before, text ++ after⟩ first.cursor :=
    reaches_of_mem_outcomes reached
  have nonempty := ne_nil_of_isVisible visible (takes_of_mem_outcomes reached
    reaches.textTo_append.symm reaches.reverse_textTo_append.symm)
  exact ⟨_, matchAt?_eq_some_iff.2 ⟨first, preferred, nonempty, rfl⟩⟩

/-- Where a pattern has an occurrence, a search finds one that begins there or covers that place. -/
theorem exists_found_of_matchAt?
    {pattern : Pattern}
    {start stop : Text}
    {matched : Match}
    (occurs : pattern.matchAt? ⟨start.reverse, stop⟩ = some matched) :
    ∃ found ∈ pattern.findAll (start ++ stop), found.before.length ≤ start.length ∧
      start.length < found.before.length + found.text.length := by
  rcases cut_cases (@piecesText_pieces pattern (start ++ stop)) with
    ⟨first, last, cut, rfl, rfl⟩ | ⟨first, found, last, head, tail, cut, rfl, taken, -, some, -⟩
  · cases last with
    | nil => simp [matchAt?_nil] at occurs
    | cons piece last =>
        have placed := matchAt?_of_pieces_eq cut
        rw [occurs] at placed
        cases piece with
        | plain c => cases placed
        | found found =>
            have member := mem_findAll_of_pieces_eq cut
            have positive := List.length_pos_iff.2 (whole_of_mem_findAll member).2
            have place := congrArg List.length (eq_of_pieces_eq cut).1
            rw [List.length_reverse] at place
            exact ⟨found, member, Nat.le_of_eq place, by omega⟩
  · have positive := List.length_pos_iff.2 some
    have place := congrArg List.length (eq_of_pieces_eq cut).1
    rw [List.length_reverse] at place
    refine ⟨found, mem_findAll_of_pieces_eq cut, ?_, ?_⟩
    · rw [place, List.length_append]
      exact Nat.le_add_right _ _
    · rw [place, taken, List.length_append, List.length_append]
      omega

/-- Where a visible pattern takes a text, a search finds an occurrence that begins there or takes in
that place. -/
theorem exists_found_of_takes
    {pattern : Pattern}
    {text before middle after : Text}
    (visible : pattern.isVisible = true)
    (whole : before.reverse ++ (middle ++ after) = text)
    (takes : pattern.Takes before middle after) :
    ∃ found ∈ pattern.findAll text, found.before.length ≤ before.length ∧
      before.length < found.before.length + found.text.length := by
  obtain ⟨matched, occurs⟩ := exists_matchAt? visible takes
  have found := @exists_found_of_matchAt? pattern before.reverse (middle ++ after) matched
    (by simpa using occurs)
  rwa [whole, List.length_reverse] at found

/-- The occurrence that a search finds at a place where a visible pattern takes a text is cut by
that place. -/
theorem exists_cut_of_takes
    {pattern : Pattern}
    {text before middle after : Text}
    (visible : pattern.isVisible = true)
    (whole : before.reverse ++ (middle ++ after) = text)
    (takes : pattern.Takes before middle after) :
    ∃ found ∈ pattern.findAll text, ∃ head rest, before.reverse = found.before.reverse ++ head ∧
      found.text = head ++ rest ∧ rest ≠ [] ∧ rest ++ found.after = middle ++ after := by
  obtain ⟨found, member, reached, within⟩ := exists_found_of_takes visible whole takes
  have same := (whole_of_mem_findAll member).1.trans whole.symm
  rw [List.append_assoc] at same
  have later : ∃ head, before.reverse = found.before.reverse ++ head ∧
      found.text ++ found.after = head ++ (middle ++ after) := by
    rcases List.append_eq_append_iff.1 same with ⟨head, split, tail⟩ | ⟨head, split, tail⟩
    · exact ⟨head, split, tail⟩
    · have lengths := congrArg List.length split
      simp only [List.length_reverse, List.length_append] at lengths
      obtain rfl : head = [] := List.length_eq_zero_iff.1 (by omega)
      exact ⟨[], by simpa using split.symm, by simpa using tail.symm⟩
  obtain ⟨head, split, tail⟩ := later
  have lengths := congrArg List.length split
  simp only [List.length_reverse, List.length_append] at lengths
  refine ⟨found, member, head, ?_⟩
  rcases List.append_eq_append_iff.1 tail with ⟨beyond, split', -⟩ | ⟨rest, split', tail'⟩
  · have lengths' := congrArg List.length split'
    simp only [List.length_append] at lengths'
    omega
  · refine ⟨rest, split, split', ?_, tail'.symm⟩
    rintro rfl
    have lengths' := congrArg List.length split'
    simp only [List.append_nil] at lengths'
    omega

/-- A visible pattern occurs in a text exactly when it takes some part of it. -/
theorem occursIn_iff
    {pattern : Pattern}
    {text : Text}
    (visible : pattern.isVisible = true) :
    pattern.occursIn text = true ↔
      ∃ before middle after, before.reverse ++ (middle ++ after) = text ∧
        pattern.Takes before middle after := by
  rw [occursIn, find?, List.isSome_head?]
  constructor
  · intro present
    obtain ⟨found, member⟩ := List.exists_mem_of_ne_nil _ present
    have whole := (whole_of_mem_findAll member).1
    rw [List.append_assoc] at whole
    exact ⟨_, _, _, whole, takes_of_mem_findAll member⟩
  · rintro ⟨before, middle, after, whole, takes⟩
    obtain ⟨found, member, -⟩ := exists_found_of_takes visible whole takes
    exact List.ne_nil_of_mem member

/-- Occurrences come from left to right, and none overlap. -/
theorem pairwise_findAll (pattern : Pattern) (text : Text) :
    (pattern.findAll text).Pairwise fun first second =>
      first.before.length + first.text.length ≤ second.before.length := by
  -- The induction runs over the pieces that are left after those of the text so far.
  suffices ordered : ∀ past pieces, pattern.pieces text = past ++ pieces →
      (pieces.filterMap occurrence?).Pairwise fun first second =>
        first.before.length + first.text.length ≤ second.before.length from ordered [] _ rfl
  intro past pieces
  induction pieces generalizing past with
  | nil => exact fun _ => .nil
  | cons piece pieces ih =>
      intro cut
      have others := ih (past ++ [piece]) (by simp [cut])
      cases piece with
      | plain c => exact others
      | found first =>
          refine List.pairwise_cons.2 ⟨fun second member => ?_, others⟩
          obtain ⟨between, last, rfl⟩ :=
            List.append_of_mem (mem_filterMap_occurrence?_iff.1 member)
          have later : pattern.pieces text =
              (past ++ .found first :: between) ++ .found second :: last := by
            simp [cut]
          rw [(eq_of_pieces_eq cut).1, (eq_of_pieces_eq later).1]
          simp only [piecesText_append, piecesText_found_cons, List.length_reverse,
            List.length_append]
          omega

/-- Of two occurrences, the one that begins first ends before the other one begins. -/
theorem end_le_of_lt
    {pattern : Pattern}
    {text : Text}
    {first second : Match}
    (member : first ∈ pattern.findAll text)
    (member' : second ∈ pattern.findAll text)
    (earlier : first.before.length < second.before.length) :
    first.before.length + first.text.length ≤ second.before.length := by
  have ordered := pairwise_findAll pattern text
  obtain ⟨early, late, split⟩ := List.append_of_mem member
  rw [split] at ordered member'
  obtain ⟨-, ordered, across⟩ := List.pairwise_append.1 ordered
  rcases List.mem_append.1 member' with known | known
  · have past := across second known first List.mem_cons_self
    omega
  · rcases List.mem_cons.1 known with rfl | known
    · exact absurd earlier (Nat.lt_irrefl _)
    · exact (List.pairwise_cons.1 ordered).1 second known

/-- Where a visible pattern could take an occurrence together with some text before it, a search has
already found an occurrence that ends within that text. -/
theorem exists_found_before
    {pattern : Pattern}
    {text front head : Text}
    {found : Match}
    (visible : pattern.isVisible = true)
    (member : found ∈ pattern.findAll text)
    (place : found.before.reverse = front ++ head)
    (nonempty : head ≠ [])
    (takes : pattern.Takes front.reverse (head ++ found.text) found.after) :
    ∃ other ∈ pattern.findAll text, ∃ start part more,
      other.text = start ++ part ∧ part ≠ [] ∧ head = part ++ more := by
  have whole : front.reverse.reverse ++ ((head ++ found.text) ++ found.after) = text := by
    rw [← (whole_of_mem_findAll member).1, place, List.reverse_reverse]
    simp only [List.append_assoc]
  obtain ⟨other, member', start, part, place', split, within, later⟩ :=
    exists_cut_of_takes visible whole takes
  refine ⟨other, member', start, part, ?_⟩
  have positive := List.length_pos_iff.2 nonempty
  have lengths := congrArg List.length place
  have lengths' := congrArg List.length place'
  have lengths'' := congrArg List.length split
  simp only [List.length_append, List.length_reverse] at lengths lengths' lengths''
  have ended := end_le_of_lt member' member (by omega)
  rw [List.append_assoc] at later
  rcases List.append_eq_append_iff.1 later with ⟨more, inside, -⟩ | ⟨more, inside, -⟩
  · exact ⟨more, split, within, inside⟩
  · have lengths := congrArg List.length inside
    rw [List.length_append] at lengths
    obtain rfl : more = [] := List.length_eq_zero_iff.1 (by omega)
    exact ⟨[], split, within, by simpa using inside.symm⟩

theorem find?_eq_none
    {pattern : Pattern}
    {text : Text}
    (absent : pattern.findAll text = []) :
    pattern.find? text = none := by
  rw [find?, absent]
  rfl

theorem exists_find?_eq_some
    {pattern : Pattern}
    {text : Text}
    {found : Match}
    (member : found ∈ pattern.findAll text) :
    ∃ first, pattern.find? text = some first := by
  cases findings : pattern.findAll text with
  | nil => simp [findings] at member
  | cons first others => exact ⟨first, by rw [find?, findings]; rfl⟩

/-- No place at which a visible pattern takes a text lies before its first occurrence. -/
theorem length_le_of_find?
    {pattern : Pattern}
    {text before middle after : Text}
    {first : Match}
    (visible : pattern.isVisible = true)
    (known : pattern.find? text = some first)
    (whole : before.reverse ++ (middle ++ after) = text)
    (takes : pattern.Takes before middle after) :
    first.before.length ≤ before.length := by
  apply Nat.le_of_not_lt
  intro earlier
  obtain ⟨found, here⟩ := exists_matchAt? visible takes
  have nothing : pattern.matchAt? ⟨before, middle ++ after⟩ = none :=
    matchAt?_eq_none_of_find? known whole earlier
  simp [nothing] at here

/-- Every occurrence but the first begins after the first one ends. -/
theorem eq_or_le_of_find?
    {pattern : Pattern}
    {text : Text}
    {first found : Match}
    (known : pattern.find? text = some first)
    (member : found ∈ pattern.findAll text) :
    found = first ∨ first.before.length + first.text.length ≤ found.before.length := by
  obtain ⟨others, shape⟩ := List.head?_eq_some_iff.1 known
  have ordered := pairwise_findAll pattern text
  rw [shape] at ordered member
  rcases List.mem_cons.1 member with same | member
  · exact .inl same
  · exact .inr ((List.pairwise_cons.1 ordered).1 found member)

end Pattern
end SearchPhrase
