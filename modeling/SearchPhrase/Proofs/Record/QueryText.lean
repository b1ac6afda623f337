import SearchPhrase.Record.Param
import SearchPhrase.Text.Percent.Lemmas

/-!
# Query strings carry pairs

A query string that spells out pairs is cut into the parts that spell them, and each part is decoded
into its pair.  Reading a query string of coded pairs therefore comes down to reading the pairs,
whatever characters they hold and whether their blanks are coded as escapes or as plus signs.  A
record's own query string is one of them.
-/

namespace SearchPhrase

namespace Percent

/-- A way of coding from which every text is read back, and by which none of the marks that mean
something in a query string is left. -/
structure IsCoding (code : Text → Text) : Prop where
  /-- A coded text is read back. -/
  decode? : ∀ text, decode? (code text) = some text
  /-- A coded text holds none of the marks of a query string. -/
  unmarked : ∀ text, ∀ c ∈ code text, c ∉ ['&', '=', '?']

theorem isCoding_encode : IsCoding encode where
  decode? := decode?_encode
  unmarked text c member := by
    have reserved : ∀ c ∈ ['&', '=', '?'], isUnreserved c = false ∧ c ≠ '%' := by decide
    intro mark
    exact not_mem_encode (reserved c mark).1 (reserved c mark).2 text member

/-- The coded form of one character in which a blank is a plus sign. -/
def encodeFormChar (c : Char) : Text :=
  if c = ' ' then ['+'] else encodeChar c

/-- The coded form of a text in which blanks are plus signs. -/
def encodeForm (text : Text) : Text :=
  text.flatMap encodeFormChar

theorem plusToBlank_append (first second : Text) :
    plusToBlank (first ++ second) = plusToBlank first ++ plusToBlank second :=
  List.map_append

theorem plusToBlank_encodeChar (c : Char) : plusToBlank (encodeChar c) = encodeChar c := by
  have absent : '+' ∉ encode [c] := not_mem_encode (by decide) (by decide) [c]
  rw [encode, List.flatMap_singleton] at absent
  exact plusToBlank_eq_self absent

/-- Whether a blank is a plus sign or an escape, it is read as a blank. -/
theorem decodeBytes_plusToBlank_encodeForm (text : Text) :
    decodeBytes (plusToBlank (encodeForm text)) = Text.toBytes text := by
  induction text with
  | nil => rfl
  | cons c rest ih =>
      rw [encodeForm, List.flatMap_cons, ← encodeForm, plusToBlank_append, Text.toBytes_cons, ← ih]
      by_cases blank : c = ' '
      · subst blank
        exact decodeBytes_cons (by decide) _
      · rw [encodeFormChar, if_neg blank, plusToBlank_encodeChar, decodeBytes_encodeChar_append]

theorem isCoding_encodeForm : IsCoding encodeForm where
  decode? text := by
    rw [decode?, decodeBytes_plusToBlank_encodeForm, Utf8.decode?_toBytes]
  unmarked text c member := by
    obtain ⟨source, -, member⟩ := List.mem_flatMap.1 member
    rw [encodeFormChar] at member
    split at member
    · rw [List.mem_singleton.1 member]
      decide
    · have coded : c ∈ encode [source] := by simpa [encode] using member
      exact isCoding_encode.unmarked [source] c coded

theorem encode_eq_self
    {text : Text}
    (unreserved : ∀ c ∈ text, isUnreserved c = true) :
    encode text = text := by
  induction text with
  | nil => rfl
  | cons c rest ih =>
      have tail := ih fun d member => unreserved d (List.mem_cons_of_mem _ member)
      rw [encode, List.flatMap_cons, ← encode, tail, encodeChar, if_pos (unreserved c (by simp)),
        List.singleton_append]

end Percent

namespace FilterRecord

theorem dropWhile_mark_eq_self {text : Text} (unmarked : text.head? ≠ some '?') :
    text.dropWhile (· == '?') = text := by
  cases text with
  | nil => rfl
  | cons c rest =>
      have other : c ≠ '?' := by simpa using unmarked
      simp [other]

theorem queryParts_intercalate
    {parts : List Text}
    (unmarked : ∀ part ∈ parts.head?, part.head? ≠ some '?')
    (separate : ∀ part ∈ parts, part ≠ [] ∧ '&' ∉ part) :
    queryParts (List.intercalate ['&'] parts) = parts := by
  cases parts with
  | nil => rfl
  | cons part parts =>
      have nonempty : part ≠ [] := (separate part (by simp)).1
      have start : (List.intercalate ['&'] (part :: parts)).head? = part.head? := by
        cases parts with
        | nil => rw [List.intercalate_singleton]
        | cons next parts =>
            rw [List.intercalate_cons_cons, List.append_assoc, List.head?_append,
              List.head?_eq_some_head nonempty, Option.some_or]
      have kept := dropWhile_mark_eq_self (start ▸ unmarked part rfl)
      rw [queryParts, kept, List.splitOn_intercalate _ (fun q member => (separate q member).2)
        (by simp)]
      refine List.filter_eq_self.2 fun other member => ?_
      simpa using (separate other member).1

/-- A pair as part of a query string, with both its name and its value coded. -/
def codedPair (code : Text → Text) (pair : String × String) : Text :=
  code pair.1.toList ++ '=' :: code pair.2.toList

section Coding

variable {code : Text → Text} (coding : Percent.IsCoding code)

include coding

theorem decodePart_code (text : Text) : decodePart (code text) = .ok (String.ofList text) := by
  rw [decodePart, coding.decode?]

/-- A coded pair is decoded. -/
theorem decodePair_codedPair (pair : String × String) :
    decodePair (codedPair code pair) = .ok pair := by
  have absent : '=' ∉ code pair.1.toList := fun member =>
    coding.unmarked _ _ member (by decide)
  rw [decodePair, codedPair, Text.cutAt_append_cons absent]
  simp only [Option.getD_some, decodePart_code coding, String.ofList_toList]
  rfl

theorem mapM_decodePair_codedPair (pairs : List (String × String)) :
    (pairs.map (codedPair code)).mapM decodePair = .ok pairs := by
  induction pairs with
  | nil => rfl
  | cons pair pairs ih =>
      rw [List.map_cons, List.mapM_cons, decodePair_codedPair coding, ih]
      rfl

/-- A part that spells a pair holds an equals sign but no separator. -/
theorem codedPair_separate (pair : String × String) :
    codedPair code pair ≠ [] ∧ '&' ∉ codedPair code pair := by
  have absent (text : Text) : '&' ∉ code text := fun member =>
    coding.unmarked text _ member (by decide)
  rw [codedPair]
  refine ⟨by simp, ?_⟩
  simp [absent]

/-- A part that spells a pair begins with no question mark, not even where the name is empty. -/
theorem head?_codedPair (pair : String × String) : (codedPair code pair).head? ≠ some '?' := by
  intro marked
  rw [codedPair] at marked
  cases key : code pair.1.toList with
  | nil => simp [key] at marked
  | cons c rest =>
      rw [key, List.cons_append, List.head?_cons, Option.some_inj] at marked
      exact coding.unmarked pair.1.toList c (by simp [key]) (by simp [marked])

/-- The parts of a query string of coded pairs are read as the pairs. -/
theorem mapM_decodePair_queryParts (pairs : List (String × String)) :
    (queryParts (List.intercalate ['&'] (pairs.map (codedPair code)))).mapM decodePair =
      .ok pairs := by
  have parts : queryParts (List.intercalate ['&'] (pairs.map (codedPair code))) =
      pairs.map (codedPair code) := by
    apply queryParts_intercalate
    · intro part first
      obtain ⟨pair, -, rfl⟩ := List.mem_map.1 (List.mem_of_head? first)
      exact head?_codedPair coding pair
    · intro part known
      obtain ⟨pair, -, rfl⟩ := List.mem_map.1 known
      exact codedPair_separate coding pair
  rw [parts, mapM_decodePair_codedPair coding]

/-- Reading a query string of coded pairs is reading the pairs. -/
theorem ofQueryString_codedPairs (pairs : List (String × String)) :
    ofQueryString (String.ofList (List.intercalate ['&'] (pairs.map (codedPair code)))) =
      ofParams pairs := by
  rw [ofQueryString, String.toList_ofList, mapM_decodePair_queryParts coding]
  rfl

end Coding

/-- A query string of percent-coded pairs is read as the pairs themselves, with the same record or
the same error, and so is one whose blanks are plus signs. -/
theorem ofQueryString_encoded (pairs : List (String × String)) :
    ofQueryString (String.ofList
        (List.intercalate ['&'] (pairs.map (codedPair Percent.encode)))) = ofParams pairs ∧
      ofQueryString (String.ofList
        (List.intercalate ['&'] (pairs.map (codedPair Percent.encodeForm)))) = ofParams pairs :=
  ⟨ofQueryString_codedPairs Percent.isCoding_encode pairs,
    ofQueryString_codedPairs Percent.isCoding_encodeForm pairs⟩

/-- A pair whose name needs no coding. -/
def HasPlainKey (pair : String × String) : Prop :=
  ∀ c ∈ pair.1.toList, Percent.isUnreserved c = true

theorem encodePair_eq {pair : String × String} (plain : HasPlainKey pair) :
    encodePair pair = codedPair Percent.encode pair := by
  rw [encodePair, codedPair, Percent.encode_eq_self plain]

theorem hasPlainKey_of_mem_params
    {record : FilterRecord}
    {pair : String × String}
    (member : pair ∈ record.params) :
    HasPlainKey pair := by
  obtain ⟨param, -, spelled⟩ := List.mem_filterMap.1 member
  obtain ⟨value, -, rfl⟩ := Option.map_eq_some_iff.1 spelled
  have plain : ∀ param : Param, param.key.toList.all Percent.isUnreserved = true := by
    intro param
    cases param <;> decide
  exact List.all_eq_true.1 (plain param)

/-- The query string of a record is one of coded pairs. -/
theorem queryText_eq (record : FilterRecord) :
    record.queryText =
      List.intercalate ['&'] (record.params.map (codedPair Percent.encode)) := by
  rw [queryText]
  congr 1
  exact List.map_congr_left fun pair member => encodePair_eq (hasPlainKey_of_mem_params member)

/-- Reading the query string of a record is reading its pairs. -/
theorem ofQueryString_queryString_eq_ofParams (record : FilterRecord) :
    ofQueryString record.queryString = ofParams record.params := by
  rw [queryString, queryText_eq, ofQueryString_codedPairs Percent.isCoding_encode]

end FilterRecord
end SearchPhrase
