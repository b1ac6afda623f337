import SearchPhrase.Pattern.Lemmas
import SearchPhrase.Proofs.Text.Thinning

/-!
# Replacing occurrences by blanks

Where a substitute is either a blank or the occurrence itself, replacing the occurrences of a
pattern blanks out some of them and leaves the rest of the text as it is.
-/

namespace SearchPhrase
namespace Pattern

open Text

variable {pattern : Pattern} {substitute : Match → Text} {Cut : Text → Text → Text → Prop}

theorem blanked_piecesFrom
    {skip : Nat}
    {before text : Text}
    (each : ∀ found, .found found ∈ pattern.piecesFrom skip before text →
      substitute found = found.text ∨
        (substitute found = [' '] ∧ Cut found.before found.text found.after)) :
    Blanked Cut ((text.take skip).reverse ++ before) (text.drop skip)
      ((pattern.piecesFrom skip before text).flatMap (pieceText substitute)) := by
  induction text generalizing skip before with
  | nil =>
      rw [List.drop_nil]
      exact .nil
  | cons c rest ih =>
      match skip with
      | skip + 1 =>
          have others := ih each
          rw [List.take_succ_cons, List.drop_succ_cons, List.reverse_cons, List.append_assoc]
          exact others
      | 0 =>
          rw [piecesFrom] at each ⊢
          split
          · next found here =>
              simp only [here, List.mem_cons] at each
              have place : found.before = before := (eq_of_matchAt? here).1
              have others := ih fun other member => each other (.inr member)
              -- The rest of the occurrence is what the search skips after its first character.
              obtain ⟨tail, taken, rfl⟩ := exists_tail_of_matchAt? here
              rw [taken, List.length_cons, Nat.add_sub_cancel, List.take_left,
                List.drop_left] at others
              have past : Blanked Cut (found.text.reverse ++ before) found.after
                  ((pattern.piecesFrom (found.text.length - 1) (c :: before)
                    (tail ++ found.after)).flatMap (pieceText substitute)) := by
                simpa [taken] using others
              have text : c :: (tail ++ found.after) = found.text ++ found.after := by
                rw [taken, List.cons_append]
              rw [List.take_zero, List.drop_zero, List.flatMap_cons, pieceText, text]
              rcases each found (.inl rfl) with kept | ⟨blank, cut⟩
              · rw [kept]
                exact past.keep_append
              · rw [blank]
                rw [place] at cut
                exact .blank cut past
          · next none =>
              simp only [none, List.mem_cons, reduceCtorEq, false_or] at each
              exact .keep c (ih each)

/-- Replacing the occurrences of a pattern, each by a blank or by itself, blanks out stretches of a
text. -/
theorem blanked_replace
    {text : Text}
    (each : ∀ found ∈ pattern.findAll text, substitute found = found.text ∨
      (substitute found = [' '] ∧ Cut found.before found.text found.after)) :
    Blanked Cut [] text (pattern.replace substitute text) := by
  have pieces := @blanked_piecesFrom pattern substitute Cut 0 [] text fun found member =>
    each found (mem_findAll_iff.2 member)
  rwa [List.take_zero, List.drop_zero] at pieces

end Pattern
end SearchPhrase
