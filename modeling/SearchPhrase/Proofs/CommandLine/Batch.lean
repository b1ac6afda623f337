import Mathlib.Data.List.Forall2
import SearchPhrase.CommandLine.Output
import SearchPhrase.Proofs.Interpretation.Told
import SearchPhrase.Proofs.Json.Printable
import SearchPhrase.Proofs.Text.Lines

/-!
# Rows of a batch

A batch is read line by line: what is printed up to a line feed does not depend on what follows it.
Every line that is not blank has one row, and the row tells the interpretation of just that line.
-/

namespace SearchPhrase
namespace CommandLine

open Text

/-- Whether a row tells the interpretation of a line. -/
structure Tells (row line : Text) : Prop where
  /-- The row is a line itself. -/
  unbroken : '\n' ∉ row
  /-- It is read as the interpretation of the line. -/
  reads : Json.parse? row = some (Interpretation.ofPhrase (String.ofList line)).toJson
  /-- The filters, the summary and the phrase are read from its fields. -/
  tells : ∃ value, Json.parse? row = some value ∧
    (Interpretation.ofPhrase (String.ofList line)).IsToldBy value
  /-- It holds the line, character for character. -/
  names : ((Json.parse? row).bind (Json.field? "originalQuery")).bind Json.string? =
    some (String.ofList line)

/-- What is printed for a line tells its interpretation. -/
theorem tells_compact (line : Text) :
    Tells (Interpretation.ofPhrase (String.ofList line)).toJson.compact line := by
  have reads := Interpretation.parse?_compact_toJson (Interpretation.ofPhrase (String.ofList line))
  have told := (Interpretation.ofPhrase (String.ofList line)).isToldBy_toJson
  refine ⟨?_, reads, ⟨_, reads, told⟩, ?_⟩
  · exact (Json.isPrintable_compact _ (Interpretation.hasNumerals_toJson _)).feed_not_mem
  · rw [reads, Option.bind_some, told.phrase]
    rfl

/-- The lines of a batch with a line feed are those up to there and those after it. -/
theorem batchLines_append_feed (first second : Text) :
    batchLines (first ++ '\n' :: second) = batchLines (first ++ ['\n']) ++ batchLines second := by
  rw [batchLines, lines_append_feed, List.filter_append, batchLines, batchLines]

theorem batch_append_feed (first second : String) :
    batch (first ++ "\n" ++ second) = batch (first ++ "\n") ++ batch second := by
  have feed : (first ++ "\n" ++ second).toList = first.toList ++ '\n' :: second.toList := by
    simp
  have alone : (first ++ "\n").toList = first.toList ++ ['\n'] := by
    simp
  rw [batch, feed, batchLines_append_feed, List.flatMap_append, String.ofList_append, ← alone]
  rfl

/-- A batch is what is printed up to a line feed and then what is printed after it.  Its rows, each
with a line feed after it, tell the lines of the input that are not blank, one by one. -/
theorem batch_rows :
    (∀ first second : String,
      batch (first ++ "\n" ++ second) = batch (first ++ "\n") ++ batch second) ∧
    ∀ input : String, ∃ lines rows : List Text,
      Lined input.toList lines ∧
      (batch input).toList = rows.flatMap (· ++ ['\n']) ∧
      List.Forall₂ Tells rows (lines.filter fun line => !isBlank line) := by
  refine ⟨batch_append_feed, fun input => ?_⟩
  let row (line : Text) : Text := (Interpretation.ofPhrase (String.ofList line)).toJson.compact
  refine ⟨lines input.toList, (batchLines input.toList).map row, lined_lines _, ?_, ?_⟩
  · rw [batch, String.toList_ofList, List.flatMap_map]
    rfl
  · rw [List.forall₂_map_left_iff]
    exact List.forall₂_same.2 fun line _ => tells_compact line

end CommandLine
end SearchPhrase
