import SearchPhrase.Proofs.Phrase.Sources
import SearchPhrase.Proofs.Record.WellFormed

/-!
# What a phrase is found to mean is well-formed

Each part of a phrase contributes values of the form that a well-formed record needs: ranges are
never reversed, names come from lists of trimmed names, a model is made up of words of a text in
lower case, and some keyword is always left.
-/

namespace SearchPhrase

/-- A make that is read is one of the list. -/
theorem Maker.exists_of_read
    {text : Text}
    {mention : Mention}
    (found : Maker.read text = some mention) :
    ∃ make ∈ makes, mention.name = displayName make := by
  obtain ⟨make, known, mentioned⟩ := List.exists_of_findSome?_eq_some found
  obtain ⟨span, -, rfl⟩ := Option.map_eq_some_iff.1 mentioned
  exact ⟨make, known, rfl⟩

/-- A place that is read is one of the list. -/
theorem Locality.exists_of_read
    {text : Text}
    {mention : Mention}
    (found : Locality.read text = some mention) :
    ∃ place ∈ places, mention.name = displayName place := by
  obtain ⟨place, known, mentioned⟩ := List.exists_of_findSome?_eq_some found
  obtain ⟨span, -, rfl⟩ := Option.map_eq_some_iff.1 mentioned
  exact ⟨place, known, rfl⟩

theorem Maker.isTrimmed_of_read
    {text : Text}
    {mention : Mention}
    (found : Maker.read text = some mention) :
    Text.IsTrimmed mention.name.toList := by
  have trimmed : ∀ make ∈ makes, Text.IsTrimmed (Text.capitalize make.toList) := by
    decide
  obtain ⟨make, known, named⟩ := exists_of_read found
  simpa [named, displayName] using trimmed make known

theorem Locality.isTrimmed_of_read
    {text : Text}
    {mention : Mention}
    (found : Locality.read text = some mention) :
    Text.IsTrimmed mention.name.toList := by
  have visible : ∀ place ∈ places, Text.isBlank place.toList = false := by decide
  obtain ⟨place, known, named⟩ := exists_of_read found
  rw [named, displayName, String.toList_ofList]
  exact Text.isTrimmed_titleCase (visible place known)

theorem Traits.isTrimmed_of_color
    {text : Text}
    {name : String}
    (found : Traits.color text = some name) :
    Text.IsTrimmed name.toList := by
  have trimmed : ∀ color ∈ colors, Text.IsTrimmed (Text.capitalize color.toList) := by
    decide
  obtain ⟨color, mentioned, rfl⟩ := Option.map_eq_some_iff.1 found
  simpa [displayColor] using trimmed color (List.mem_of_find?_eq_some mentioned)

namespace ModelName

/-- A word of a model is what is left of a word of the text, and there is something left. -/
theorem of_mem_takeWords
    {room : Nat}
    {words : List Text}
    {word : Text}
    (member : word ∈ takeWords room words) :
    word ≠ [] ∧ ∃ raw ∈ words, word ⊆ raw := by
  fun_induction takeWords room words with
  | case1 => simp at member
  | case2 => simp at member
  | case3 => simp at member
  | case4 room raw rest word' _ _ ih =>
      obtain ⟨there, other, known, part⟩ := ih member
      exact ⟨there, other, List.mem_cons_of_mem _ known, part⟩
  | case5 => simp at member
  | case6 room raw rest word' _ visible _ ih =>
      rcases List.mem_cons.1 member with rfl | member
      · refine ⟨by simpa using visible, raw, by simp, ?_⟩
        intro c known
        have kept := List.mem_reverse.1 known
        exact List.mem_reverse.1 ((List.dropWhile_suffix _).subset kept)
      · obtain ⟨there, other, known, part⟩ := ih member
        exact ⟨there, other, List.mem_cons_of_mem _ known, part⟩

/-- A model is made up of words that are there, hold no white space, and consist of characters of
the text that it is read from. -/
theorem exists_words_of_atStart
    {text : Text}
    {model : String}
    (found : atStart text = some model) :
    ∃ words : List Text, words ≠ [] ∧ model = String.ofList (List.intercalate [' '] words) ∧
      ∀ word ∈ words,
        word ≠ [] ∧ (∀ c ∈ word, Unicode.isWhiteSpace c = false) ∧ word ⊆ text := by
  unfold atStart at found
  split at found
  · simp at found
  · next nonempty =>
      cases found
      refine ⟨_, nonempty, rfl, ?_⟩
      intro word member
      obtain ⟨there, raw, known, part⟩ := of_mem_takeWords member
      obtain ⟨-, solid, whole⟩ := Text.of_mem_words known
      exact ⟨there, fun c inWord => solid c (part inWord), List.Subset.trans part whole⟩

theorem isTrimmed_of_read
    {text : Text}
    {make : Option Mention}
    {model : String}
    (found : ModelName.read text make = some model) :
    Text.IsTrimmed model.toList := by
  obtain ⟨mention, -, start⟩ := Option.bind_eq_some_iff.1 found
  obtain ⟨words, nonempty, rfl, each⟩ := exists_words_of_atStart start
  rw [String.toList_ofList]
  apply Text.isTrimmed_intercalate [' '] nonempty
  intro word member
  obtain ⟨there, solid, -⟩ := each word member
  exact Text.isTrimmed_of_solid there solid

/-- A model that is read from a text in lower case is in lower case itself. -/
theorem lowercase_of_read
    {text : Text}
    {make : Option Mention}
    {model : String}
    (found : ModelName.read (Unicode.lowercase text) make = some model) :
    Unicode.lowercase model.toList = model.toList := by
  obtain ⟨mention, -, start⟩ := Option.bind_eq_some_iff.1 found
  obtain ⟨words, -, rfl, each⟩ := exists_words_of_atStart start
  rw [String.toList_ofList]
  apply Unicode.lowercase_eq_self
  intro c member
  rcases Text.mem_intercalate member with separator | ⟨word, known, inWord⟩
  · obtain rfl := List.mem_singleton.1 separator
    exact ⟨by decide, by decide⟩
  · obtain ⟨-, -, part⟩ := each word known
    exact Unicode.isSettled_of_mem_lowercase (Text.dropBytes_subset _ _ (part inWord))

/-- A model is read only after a make. -/
theorem make_of_read
    {text : Text}
    {make : Option Mention}
    (found : (ModelName.read text make).isSome = true) :
    make.isSome = true := by
  cases make with
  | none => exact found
  | some mention => rfl

end ModelName

/-- Some keyword is always left. -/
theorem Keywords.isBlank_read (phrase : Text) : Text.isBlank (Keywords.read phrase) = false := by
  unfold Keywords.read
  rcases Text.collapse_eq_nil_or_isTrimmed (strip phrase) with ⟨nothing, -⟩ | ⟨trimmed, -⟩
  · rw [nothing]
    cases blank : Text.isBlank phrase with
    | true => exact (by decide : Text.isBlank matchAll = false)
    | false => simpa using blank
  · have there : (Text.collapse (strip phrase)).isEmpty = false :=
      List.isEmpty_eq_false_iff.2 trimmed.1
    simpa [there] using trimmed.isBlank_eq_false

namespace Interpretation

/-- The filters of a phrase are well-formed. -/
theorem wellFormed_filters (phrase : String) : (ofPhrase phrase).filters.WellFormed where
  make := by
    intro make member
    obtain ⟨mention, found, rfl⟩ := Option.map_eq_some_iff.1 member
    exact Maker.isTrimmed_of_read found
  model := fun _ => ModelName.isTrimmed_of_read
  lowerModel := fun _ => ModelName.lowercase_of_read
  location := by
    intro location member
    obtain ⟨mention, found, rfl⟩ := Option.map_eq_some_iff.1 member
    exact Locality.isTrimmed_of_read found
  color := fun _ => Traits.isTrimmed_of_color
  category := rfl
  make_of_model := by
    intro found
    have mentioned := ModelName.make_of_read found
    simpa [ofPhrase, filtersOf] using mentioned
  year := Bounds.isOrdered_iff.2 (Years.isBuilt_read _).isReversed
  price := Bounds.isOrdered_iff.2 (Budget.isBuilt_read _ _).isReversed
  odometer := Bounds.isOrdered_iff.2 (Mileage.isBuilt_read _).isReversed
  query := by
    have visible := Keywords.isBlank_read phrase.toList
    simpa [ofPhrase, filtersOf] using visible

end Interpretation
end SearchPhrase
