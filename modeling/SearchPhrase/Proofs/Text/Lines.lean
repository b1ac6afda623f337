import SearchPhrase.CommandLine.Output

/-!
# The lines that make up a text

Which lines a text has is told by how it is put together: each line is followed by its ending, and a
last line may go without.  Every text is put together from lines in exactly one way.
-/

namespace SearchPhrase
namespace Text

/-- How a text is put together from lines. -/
inductive Lined : Text → List Text → Prop where
  /-- An empty text has no lines. -/
  | nil : Lined [] []
  /-- A last line without an ending is there. -/
  | last {line : Text} (nonempty : line ≠ []) (whole : '\n' ∉ line) : Lined line [line]
  /-- A line may end at a line feed alone. -/
  | feed {line rest : Text} {others : List Text} (whole : '\n' ∉ line)
      (bare : line.getLast? ≠ some '\r') (after : Lined rest others) :
      Lined (line ++ '\n' :: rest) (line :: others)
  /-- A line may end at a carriage return and a line feed. -/
  | returnFeed {line rest : Text} {others : List Text} (whole : '\n' ∉ line)
      (after : Lined rest others) : Lined (line ++ '\r' :: '\n' :: rest) (line :: others)

theorem linesOfParts_append {parts others : List Text} (more : others ≠ []) :
    linesOfParts (parts ++ others) = parts.map dropReturn ++ linesOfParts others := by
  induction parts with
  | nil => rfl
  | cons part parts ih =>
      obtain ⟨next, rest, eq⟩ :=
        List.exists_cons_of_ne_nil (List.append_ne_nil_of_right_ne_nil parts more)
      rw [List.cons_append, eq, linesOfParts, ← eq, ih, List.map_cons, List.cons_append]
      exact fun nothing => absurd nothing (List.cons_ne_nil _ _)

/-- The lines of a text with a line feed are those up to there and those after it. -/
theorem lines_append_feed (first second : Text) :
    lines (first ++ '\n' :: second) = lines (first ++ ['\n']) ++ lines second := by
  have parts : ∀ rest : Text,
      lines (first ++ '\n' :: rest) = (List.splitOn '\n' first).map dropReturn ++ lines rest := by
    intro rest
    rw [lines, List.splitOn_append_cons_self, linesOfParts_append (List.splitOn_ne_nil '\n' rest),
      lines]
  rw [parts second, parts [], List.append_assoc]
  rfl

/-- A text that begins with a line has it as its first one. -/
theorem lines_append_of_whole {line : Text} (whole : '\n' ∉ line) (rest : Text) :
    lines (line ++ '\n' :: rest) = dropReturn line :: lines rest := by
  rw [lines, List.splitOn_append_cons_self, List.splitOn_eq_singleton whole,
    linesOfParts_append (List.splitOn_ne_nil '\n' rest), lines]
  rfl

theorem lines_of_whole {line : Text} (nonempty : line ≠ []) (whole : '\n' ∉ line) :
    lines line = [line] := by
  rw [lines, List.splitOn_eq_singleton whole, linesOfParts]
  simp [nonempty]

theorem dropReturn_of_bare {line : Text} (bare : line.getLast? ≠ some '\r') :
    dropReturn line = line :=
  if_neg bare

theorem dropReturn_concat (line : Text) : dropReturn (line ++ ['\r']) = line := by
  simp [dropReturn]

/-- A text is cut into the lines that it is put together from. -/
theorem Lined.lines_eq
    {text : Text}
    {found : List Text}
    (lined : Lined text found) :
    lines text = found := by
  induction lined with
  | nil => rfl
  | last nonempty whole => exact lines_of_whole nonempty whole
  | feed whole bare after ih => rw [lines_append_of_whole whole, dropReturn_of_bare bare, ih]
  | @returnFeed line rest others whole after ih =>
      have longer : '\n' ∉ line ++ ['\r'] := by simp [whole]
      have cut : line ++ '\r' :: '\n' :: rest = (line ++ ['\r']) ++ '\n' :: rest := by simp
      rw [cut, lines_append_of_whole longer, dropReturn_concat, ih]

/-- Every text is put together from the lines that it is cut into. -/
theorem lined_lines (text : Text) : Lined text (lines text) := by
  induction size : text.length using Nat.strongRecOn generalizing text with
  | ind size ih =>
      by_cases fed : '\n' ∈ text
      · obtain ⟨line, rest, rfl, whole⟩ := List.eq_append_cons_of_mem fed
        have after : Lined rest (lines rest) := by
          refine ih rest.length ?_ rest rfl
          rw [← size, List.length_append, List.length_cons]
          omega
        rw [lines_append_of_whole whole]
        by_cases returned : line.getLast? = some '\r'
        · obtain ⟨bare, rfl⟩ := List.getLast?_eq_some_iff.1 returned
          have shorter : '\n' ∉ bare := fun member => whole (List.mem_append_left _ member)
          rw [dropReturn_concat, List.append_assoc]
          exact .returnFeed shorter after
        · rw [dropReturn_of_bare returned]
          exact .feed whole returned after
      · by_cases nothing : text = []
        · subst nothing
          exact .nil
        · rw [lines_of_whole nothing fed]
          exact .last nothing fed

/-- The lines that a text is put together from are those that it is cut into. -/
theorem lined_iff {text : Text} {found : List Text} : Lined text found ↔ lines text = found :=
  ⟨Lined.lines_eq, fun eq => eq ▸ lined_lines text⟩

/-- A line is made of characters of the text, and holds no line feed. -/
theorem of_mem_lines {text line : Text} (member : line ∈ lines text) :
    line ⊆ text ∧ '\n' ∉ line := by
  have lined := lined_lines text
  generalize lines text = found at lined member
  induction lined with
  | nil => exact absurd member List.not_mem_nil
  | last nonempty whole =>
      obtain rfl := List.mem_singleton.1 member
      exact ⟨List.Subset.refl _, whole⟩
  | feed whole bare after ih =>
      rcases List.mem_cons.1 member with rfl | member
      · exact ⟨List.subset_append_left _ _, whole⟩
      · obtain ⟨inside, solid⟩ := ih member
        exact ⟨fun c known => by simp [inside known], solid⟩
  | returnFeed whole after ih =>
      rcases List.mem_cons.1 member with rfl | member
      · exact ⟨List.subset_append_left _ _, whole⟩
      · obtain ⟨inside, solid⟩ := ih member
        exact ⟨fun c known => by simp [inside known], solid⟩

theorem dropReturn_append
    {opening : Text}
    (bare : opening.getLast? ≠ some '\r')
    (text : Text) :
    dropReturn (opening ++ text) = opening ++ dropReturn text := by
  by_cases empty : text = []
  · subst empty
    rw [List.append_nil, dropReturn_of_bare bare]
    exact (List.append_nil _).symm
  · have last : (opening ++ text).getLast? = text.getLast? := by
      rw [List.getLast?_append, List.getLast?_eq_some_getLast empty, Option.some_or]
    rw [dropReturn, dropReturn, last, List.dropLast_append_of_ne_nil empty]
    split <;> rfl

/-- The first line of a text begins with what the text begins with, and other lines are there only
if there are line feeds. -/
theorem lines_append_of_opening
    {opening : Text}
    (whole : '\n' ∉ opening)
    (bare : opening.getLast? ≠ some '\r')
    (text : Text) :
    ∃ rest others, lines (opening ++ text ++ ['\n']) = (opening ++ rest) :: others ∧
      ∀ line ∈ others, '\n' ∈ text ∧ line ⊆ text := by
  by_cases fed : '\n' ∈ text
  · obtain ⟨head, tail, rfl, solid⟩ := List.eq_append_cons_of_mem fed
    have cut : opening ++ (head ++ '\n' :: tail) ++ ['\n'] =
        (opening ++ head) ++ '\n' :: (tail ++ ['\n']) := by simp
    refine ⟨dropReturn head, lines (tail ++ ['\n']), ?_, fun line member => ⟨fed, ?_⟩⟩
    · rw [cut, lines_append_of_whole (by simp [whole, solid]), dropReturn_append bare]
    · obtain ⟨inside, solid⟩ := of_mem_lines member
      intro c known
      have other : c ≠ '\n' := fun same => solid (same ▸ known)
      have place : c ∈ tail := by simpa [other] using inside known
      simp [place]
  · refine ⟨dropReturn text, [], ?_, by simp⟩
    rw [lines_append_of_whole (by simp [whole, fed]), dropReturn_append bare]
    rfl

end Text
end SearchPhrase
