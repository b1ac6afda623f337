import SearchPhrase.CommandLine.Command

/-!
# Arguments for a phrase

The arguments that are made for a phrase ask for its interpretation, however the phrase and the
location begin.
-/

namespace SearchPhrase
namespace CommandLine

namespace Draft

variable {scope : Scope} {draft : Draft} {argument : String}

/-- A switch that is given by name has what follows the equals sign for its value. -/
theorem take_assignment
    {switch : Switch}
    (known : switch ∈ scope.switches)
    {value : String}
    (spelled : argument.toList = '-' :: '-' :: (switch.name.toList ++ '=' :: value.toList))
    (isOpen : draft.isClosed = false)
    (idle : draft.pending = none) :
    draft.take scope argument = draft.assign value switch := by
  have found : scope.switches.find? (fun other => other.name.toList == switch.name.toList) =
      some switch := by
    revert known
    cases scope <;> cases switch <;> decide
  have plain : '=' ∉ switch.name.toList := by cases switch <;> decide
  have named : draft.takeName scope (switch.name.toList ++ '=' :: value.toList) =
      draft.assign value switch := by
    rw [takeName, Text.cutAt_append_cons plain]
    simp only [found, Option.map_some, String.ofList_toList]
    rfl
  rw [take, isOpen, spelled, idle, if_neg Bool.false_ne_true, ← named]
  cases switch <;> rfl

/-- The double hyphen ends the switches of a command. -/
theorem take_hyphens
    (command : scope ≠ .program)
    (isOpen : draft.isClosed = false)
    (idle : draft.pending = none) :
    draft.take scope "--" = .ok { draft with isClosed := true } := by
  have spelled : "--".toList = ['-', '-'] := rfl
  rw [take, isOpen, spelled, idle, if_neg Bool.false_ne_true]
  exact if_neg command

/-- A phrase after the double hyphen completes the command to interpret it. -/
theorem complete_phrase
    (isOpen : draft.isClosed = false)
    (idle : draft.pending = none)
    (fresh : draft.argument = none)
    (phrase : String) :
    draft.complete .interpret ["--", phrase] =
      .ok (.interpret phrase (draft.format.getD .text) draft.location) := by
  rw [complete, take_hyphens (by decide) isOpen idle]
  simp [complete, take, place, Scope.admits, command, fresh, idle, bind, Except.bind]

/-- A location that is given goes into the draft. -/
theorem complete_location
    (isOpen : draft.isClosed = false)
    (idle : draft.pending = none)
    (fresh : draft.location = none)
    (location : Option String)
    (rest : List String) :
    draft.complete .interpret ((location.map ("--default-location=" ++ ·)).toList ++ rest) =
      { draft with location := location }.complete .interpret rest := by
  cases location with
  | none => rw [Option.map_none, Option.toList_none, List.nil_append, ← fresh]
  | some location =>
      have assigned : draft.take .interpret ("--default-location=" ++ location) =
          draft.assign location .location :=
        take_assignment (by decide) (by rw [String.toList_append]; rfl) isOpen idle
      have taken : draft.assign location .location =
          .ok { draft with location := some location } := by
        simp [assign, fresh, idle]
      rw [Option.map_some, Option.toList_some, List.singleton_append, complete, assigned, taken]
      rfl

end Draft

/-- The arguments for a phrase ask for its interpretation if there is a format of the given name,
and cannot be understood otherwise. -/
theorem command_interpretArguments (phrase : String) (format location : Option String) :
    command (interpretArguments phrase format location) =
      match Format.ofName? (format.getD "text") with
      | some format => .ok (.interpret phrase format location)
      | none => .error .misuse := by
  have phrased (format : Option Format) :
      Draft.complete .interpret { format := format }
        ((location.map ("--default-location=" ++ ·)).toList ++ ["--", phrase]) =
      .ok (.interpret phrase (format.getD .text) location) := by
    rw [Draft.complete_location rfl rfl rfl, Draft.complete_phrase rfl rfl rfl]
  have begins (rest : List String) :
      command ("interpret" :: rest) = Draft.complete .interpret {} rest := rfl
  rw [interpretArguments, List.cons_append, List.cons_append, begins, List.append_assoc]
  cases format with
  | none => exact phrased none
  | some name =>
      have taken : Draft.take .interpret {} ("--format=" ++ name) =
          Draft.assign {} name .format :=
        Draft.take_assignment (by decide) (by rw [String.toList_append]; rfl) rfl rfl
      rw [Option.map_some, Option.toList_some, List.singleton_append, Draft.complete, taken,
        Draft.assign, Option.getD_some]
      cases Format.ofName? name with
      | none => rfl
      | some format => exact phrased (some format)

/-- Interpreting a phrase prints it in the format of the given name, and nothing if there is no such
format. -/
theorem runInterpret_eq (phrase : String) (format location : Option String) :
    runInterpret phrase format location =
      match Format.ofName? (format.getD "text") with
      | some format => ⟨0, interpret format location phrase⟩
      | none => ⟨2, ""⟩ := by
  rw [runInterpret, outcome, command_interpretArguments]
  cases Format.ofName? (format.getD "text") with
  | none => rfl
  | some format => rfl

end CommandLine
end SearchPhrase
