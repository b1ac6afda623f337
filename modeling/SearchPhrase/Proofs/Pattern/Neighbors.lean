import Mathlib.Data.List.Chain
import Mathlib.Data.List.ProdSigma
import SearchPhrase.Proofs.Pattern.Longest

/-!
# Characters side by side

From the form of a pattern it can be read off which characters may stand side by side in a text that
it takes.  A text with two neighbours that are not among these is no part of what the pattern takes.
-/

namespace SearchPhrase
namespace Pattern

open CharClass

/-- The classes of the last character of a text that a pattern takes. -/
def ends : Pattern → List CharClass
  | char cls => [cls]
  | seq first second => if second.isVisible then second.ends else first.ends ++ second.ends
  | alt preferred fallback => preferred.ends ++ fallback.ends
  | run cls => [cls]
  | capture _ body => body.ends
  | _ => []

theorem beginsIn_ends
    {pattern : Pattern}
    {before text after : Text}
    (takes : pattern.Takes before text after)
    (nonempty : text ≠ []) :
    BeginsIn pattern.ends text.reverse := by
  induction pattern generalizing before text after with
  | never => exact absurd takes id
  | empty => exact absurd takes nonempty
  | char cls =>
      obtain ⟨c, rfl, accepted⟩ := takes
      exact ⟨c, rfl, cls, List.mem_singleton.2 rfl, accepted⟩
  | seq first second ihFirst ihSecond =>
      obtain ⟨head, tail, rfl, takesHead, takesTail⟩ := takes
      rw [ends, List.reverse_append]
      by_cases none : tail = []
      · subst none
        rw [List.append_nil] at nonempty
        rw [if_neg fun visible => ne_nil_of_isVisible visible takesTail rfl]
        exact (ihFirst takesHead nonempty).mono (List.subset_append_left _ _)
      · obtain ⟨c, isFirst, cls, known, accepted⟩ := ihSecond takesTail none
        refine ⟨c, ?_, cls, ?_, accepted⟩
        · rw [Option.mem_def] at isFirst ⊢
          rw [List.head?_append, isFirst, Option.some_or]
        · split
          · exact known
          · exact List.mem_append_right _ known
  | alt preferred fallback ihPreferred ihFallback =>
      rcases takes with takes | takes
      · exact (ihPreferred takes nonempty).mono (List.subset_append_left _ _)
      · exact (ihFallback takes nonempty).mono (List.subset_append_right _ _)
  | run cls =>
      obtain ⟨c, rest, shape⟩ := List.exists_cons_of_ne_nil (List.reverse_ne_nil_iff.2 nonempty)
      have member : c ∈ text := List.mem_reverse.1 (shape ▸ List.mem_cons_self)
      exact ⟨c, by rw [shape]; rfl, cls, List.mem_singleton.2 rfl, takes c member⟩
  | boundary => exact absurd takes.1 nonempty
  | capture slot body ih => exact ih takes nonempty

/-- The classes of two characters side by side in a text that a pattern takes. -/
def neighbors : Pattern → List (CharClass × CharClass)
  | seq first second =>
      first.neighbors ++ (second.neighbors ++ first.ends.product second.starts)
  | alt preferred fallback => preferred.neighbors ++ fallback.neighbors
  | run cls => [(cls, cls)]
  | capture _ body => body.neighbors
  | _ => []

/-- Whether two characters belong to the classes of a pair. -/
def areNeighbors (pairs : List (CharClass × CharClass)) (first second : Char) : Bool :=
  pairs.any fun pair => pair.1.accepts first && pair.2.accepts second

theorem areNeighbors_iff
    {pairs : List (CharClass × CharClass)}
    {first second : Char} :
    areNeighbors pairs first second = true ↔
      ∃ pair ∈ pairs, pair.1.accepts first = true ∧ pair.2.accepts second = true := by
  simp [areNeighbors]

theorem isChain_mono
    {pairs others : List (CharClass × CharClass)}
    {text : Text}
    (chain : text.IsChain fun c d => areNeighbors pairs c d = true)
    (subset : pairs ⊆ others) :
    text.IsChain fun c d => areNeighbors others c d = true := by
  refine chain.imp fun c d near => ?_
  obtain ⟨pair, known, accepted⟩ := areNeighbors_iff.1 near
  exact areNeighbors_iff.2 ⟨pair, subset known, accepted⟩

/-- Characters side by side in a text that a pattern takes are neighbours by its form. -/
theorem isChain_of_takes
    {pattern : Pattern}
    {before text after : Text}
    (takes : pattern.Takes before text after) :
    text.IsChain fun c d => areNeighbors pattern.neighbors c d = true := by
  induction pattern generalizing before text after with
  | never => exact absurd takes id
  | empty =>
      obtain rfl : text = [] := takes
      exact .nil
  | char cls =>
      obtain ⟨c, rfl, -⟩ := takes
      exact .singleton c
  | seq first second ihFirst ihSecond =>
      obtain ⟨head, tail, rfl, takesHead, takesTail⟩ := takes
      refine List.isChain_append.2 ⟨isChain_mono (ihFirst takesHead) (List.subset_append_left _ _),
        isChain_mono (ihSecond takesTail) fun pair known =>
          List.mem_append_right _ (List.mem_append_left _ known), fun c last d next => ?_⟩
      -- The two parts meet at the last character of the one and the first of the other.
      have thereHead : head ≠ [] := List.ne_nil_of_mem (List.mem_of_getLast? last)
      have thereTail : tail ≠ [] := List.ne_nil_of_mem (List.mem_of_head? next)
      obtain ⟨c', last', cls, known, accepted⟩ := beginsIn_ends takesHead thereHead
      obtain ⟨d', next', cls', known', accepted'⟩ := beginsIn_starts takesTail thereTail
      rw [List.head?_reverse] at last'
      obtain rfl : c' = c := Option.some.inj (last'.symm.trans last)
      obtain rfl : d' = d := Option.some.inj (next'.symm.trans next)
      refine areNeighbors_iff.2 ⟨(cls, cls'), ?_, accepted, accepted'⟩
      exact List.mem_append_right _ (List.mem_append_right _ (List.mem_product.2 ⟨known, known'⟩))
  | alt preferred fallback ihPreferred ihFallback =>
      rcases takes with takes | takes
      · exact isChain_mono (ihPreferred takes) (List.subset_append_left _ _)
      · exact isChain_mono (ihFallback takes) (List.subset_append_right _ _)
  | run cls =>
      refine List.Pairwise.isChain (List.pairwise_of_forall_mem_list fun c member d member' => ?_)
      exact areNeighbors_iff.2
        ⟨(cls, cls), List.mem_singleton.2 rfl, takes c member, takes d member'⟩
  | boundary =>
      obtain ⟨rfl, -⟩ := takes
      exact .nil
  | capture slot body ih => exact ih takes

end Pattern
end SearchPhrase
