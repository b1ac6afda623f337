import SearchPhrase.Proofs.Pattern.Takes

/-!
# Where the pieces of a text stand

A search cuts a text into pieces.  Each piece tells what the pattern does at the place where it
stands: an occurrence is the one that the pattern has there, and at a character that stands by
itself the pattern has none.
-/

namespace SearchPhrase
namespace Pattern

/-- The part of the text that some pieces take up. -/
def piecesText (pieces : List Piece) : Text :=
  pieces.flatMap (pieceText Match.text)

@[simp] theorem piecesText_nil : piecesText [] = [] := rfl

@[simp] theorem piecesText_plain_cons (c : Char) (pieces : List Piece) :
    piecesText (.plain c :: pieces) = c :: piecesText pieces :=
  rfl

@[simp] theorem piecesText_found_cons (found : Match) (pieces : List Piece) :
    piecesText (.found found :: pieces) = found.text ++ piecesText pieces :=
  rfl

@[simp] theorem piecesText_append (first second : List Piece) :
    piecesText (first ++ second) = piecesText first ++ piecesText second :=
  List.flatMap_append

@[simp] theorem piecesText_map_plain (text : Text) : piecesText (text.map .plain) = text := by
  induction text with
  | nil => rfl
  | cons c text ih => rw [List.map_cons, piecesText_plain_cons, ih]

variable {pattern : Pattern}

theorem piecesText_piecesFrom (skip : Nat) (before text : Text) :
    piecesText (pattern.piecesFrom skip before text) = text.drop skip :=
  flatMap_piecesFrom pattern skip before text

theorem matchAt?_of_piecesFrom_eq
    {skip : Nat}
    {before text : Text}
    {start stop : List Piece}
    {piece : Piece}
    (cut : pattern.piecesFrom skip before text = start ++ piece :: stop) :
    pattern.matchAt? ⟨(piecesText start).reverse ++ ((text.take skip).reverse ++ before),
      piecesText (piece :: stop)⟩ = occurrence? piece := by
  induction text generalizing skip before start with
  | nil => simp [piecesFrom] at cut
  | cons c rest ih =>
      cases skip with
      | succ skip =>
          rw [piecesFrom] at cut
          simpa using ih cut
      | zero =>
          have whole := @piecesText_piecesFrom pattern 0 before (c :: rest)
          rw [List.drop_zero] at whole
          rw [List.take_zero, List.reverse_nil, List.nil_append]
          cases start with
          | nil =>
              -- The piece is the first one, so that it stands at the start of the text.
              rw [cut, List.nil_append] at whole
              rw [piecesText_nil, List.reverse_nil, List.nil_append, whole]
              rw [piecesFrom] at cut
              split at cut
              · next found here =>
                  obtain ⟨rfl, -⟩ := List.cons.inj cut
                  exact here
              · next nothing =>
                  obtain ⟨rfl, -⟩ := List.cons.inj cut
                  exact nothing
          | cons first start =>
              rw [piecesFrom] at cut
              split at cut
              · next found here =>
                  obtain ⟨rfl, later⟩ := List.cons.inj cut
                  obtain ⟨tail, taken, rfl⟩ := exists_tail_of_matchAt? here
                  simpa [taken] using ih later
              · next nothing =>
                  obtain ⟨rfl, later⟩ := List.cons.inj cut
                  simpa using ih later

/-- The pieces of a text make it up. -/
theorem piecesText_pieces (text : Text) : piecesText (pattern.pieces text) = text :=
  replace_text pattern text

/-- At the place of a piece, the pattern has the occurrence that the piece holds, or none. -/
theorem matchAt?_of_pieces_eq
    {text : Text}
    {start stop : List Piece}
    {piece : Piece}
    (cut : pattern.pieces text = start ++ piece :: stop) :
    pattern.matchAt? ⟨(piecesText start).reverse, piecesText (piece :: stop)⟩ =
      occurrence? piece := by
  have placed := matchAt?_of_piecesFrom_eq cut
  rwa [List.take_zero, List.reverse_nil, List.nil_append, List.append_nil] at placed

/-- Pieces are cut where their text is, unless the place lies within an occurrence. -/
theorem cut_cases
    {pieces : List Piece}
    {head tail : Text}
    (whole : piecesText pieces = head ++ tail) :
    (∃ first last, pieces = first ++ last ∧ piecesText first = head ∧ piecesText last = tail) ∨
      ∃ first found last start stop, pieces = first ++ .found found :: last ∧
        head = piecesText first ++ start ∧ found.text = start ++ stop ∧ start ≠ [] ∧ stop ≠ [] ∧
        tail = stop ++ piecesText last := by
  induction pieces generalizing head with
  | nil =>
      obtain ⟨rfl, rfl⟩ := List.append_eq_nil_iff.1 whole.symm
      exact .inl ⟨[], [], rfl, rfl, rfl⟩
  | cons piece pieces ih =>
      -- A place beyond the first piece lies among the others.
      have beyond : ∀ {head' : Text}, piecesText pieces = head' ++ tail →
          head = piecesText [piece] ++ head' →
          (∃ first last, piece :: pieces = first ++ last ∧ piecesText first = head ∧
            piecesText last = tail) ∨
          ∃ first found last start stop, piece :: pieces = first ++ .found found :: last ∧
            head = piecesText first ++ start ∧ found.text = start ++ stop ∧ start ≠ [] ∧
            stop ≠ [] ∧ tail = stop ++ piecesText last := by
        rintro head' others rfl
        rcases ih others with ⟨first, last, rfl, rfl, rfl⟩ |
          ⟨first, found, last, start, stop, rfl, rfl, text, some, some', rfl⟩
        · exact .inl ⟨piece :: first, last, rfl, by simp [← piecesText_append], rfl⟩
        · refine .inr ⟨piece :: first, found, last, start, stop, rfl, ?_, text, some, some', rfl⟩
          rw [← List.append_assoc, ← piecesText_append, List.singleton_append]
      cases head with
      | nil => exact .inl ⟨[], piece :: pieces, rfl, rfl, whole⟩
      | cons d head =>
          cases piece with
          | plain c =>
              rw [piecesText_plain_cons, List.cons_append] at whole
              obtain ⟨rfl, others⟩ := List.cons.inj whole
              exact beyond others rfl
          | found found =>
              rw [piecesText_found_cons] at whole
              have alone : piecesText [.found found] = found.text := List.append_nil _
              rcases List.append_eq_append_iff.1 whole with
                ⟨head', same, others⟩ | ⟨stop, text, others⟩
              · exact beyond others (by rw [alone, same])
              · by_cases none : stop = []
                · rw [none, List.append_nil] at text
                  rw [none, List.nil_append] at others
                  exact .inl ⟨[.found found], pieces, rfl, by rw [alone, text], others.symm⟩
                · exact .inr ⟨[], found, pieces, d :: head, stop, rfl, rfl, text,
                    List.cons_ne_nil d head, none, others⟩

/-- Pieces are characters that stand by themselves, unless there is an occurrence among them. -/
theorem eq_map_plain_or_found (pieces : List Piece) :
    pieces = (piecesText pieces).map .plain ∨
      ∃ first found last, pieces = first ++ .found found :: last := by
  induction pieces with
  | nil => exact .inl rfl
  | cons piece pieces ih =>
      cases piece with
      | found found => exact .inr ⟨[], found, pieces, rfl⟩
      | plain c =>
          rcases ih with plain | ⟨first, found, last, rfl⟩
          · exact .inl (by rw [piecesText_plain_cons, List.map_cons, ← plain])
          · exact .inr ⟨.plain c :: first, found, last, rfl⟩

section Found

variable {text : Text} {found : Match} {first last : List Piece}

/-- An occurrence stands between the texts of the pieces around it. -/
theorem eq_of_pieces_eq
    (cut : pattern.pieces text = first ++ .found found :: last) :
    found.before = (piecesText first).reverse ∧ found.after = piecesText last := by
  obtain ⟨before, whole, -⟩ := eq_of_matchAt? (matchAt?_of_pieces_eq cut)
  exact ⟨before, List.append_cancel_left whole⟩

/-- The pattern takes the text of an occurrence between the texts of the pieces around it. -/
theorem takes_of_pieces_eq
    (cut : pattern.pieces text = first ++ .found found :: last) :
    pattern.Takes (piecesText first).reverse found.text (piecesText last) := by
  obtain ⟨before, after⟩ := eq_of_pieces_eq cut
  rw [← before, ← after]
  exact takes_of_matchAt? (matchAt?_of_pieces_eq cut)

theorem mem_findAll_of_pieces_eq
    (cut : pattern.pieces text = first ++ .found found :: last) :
    found ∈ pattern.findAll text :=
  mem_findAll_iff.2 (by simp [cut])

/-- An occurrence is a piece between others. -/
theorem exists_pieces_eq_of_mem_findAll
    (member : found ∈ pattern.findAll text) :
    ∃ first last, pattern.pieces text = first ++ .found found :: last ∧
      found.before = (piecesText first).reverse ∧ found.after = piecesText last := by
  obtain ⟨first, last, cut⟩ := List.append_of_mem (mem_findAll_iff.1 member)
  exact ⟨first, last, cut, eq_of_pieces_eq cut⟩

end Found

end Pattern
end SearchPhrase
