import SearchPhrase.CommandLine.Output

/-!
# Commands

What the arguments of the program ask for, and what running it prints and exits with.  Arguments are
read from left to right: switches of the program, the name of a command, and then the switches and
the argument of that command in any order.  The first switch that asks for a notice, and the first
argument that cannot be understood, end the reading.
-/

namespace SearchPhrase
namespace CommandLine

/-- A command of the program. -/
inductive Command where
  /-- Interpret one phrase. -/
  | interpret (phrase : String) (format : Format) (location : Option String)
  /-- Interpret every line of a file, or of the standard input. -/
  | batch (file : Option String)
deriving DecidableEq

/-- Why the arguments ask for no command. -/
inductive Stop where
  /-- They ask for the usage or the version, whose wording is not part of this library. -/
  | notice
  /-- They cannot be understood. -/
  | misuse
deriving DecidableEq

/-- Where an argument stands: before the name of a command, or after it. -/
inductive Scope where
  /-- Before the name of a command. -/
  | program
  /-- After the name of the command for one phrase. -/
  | interpret
  /-- After the name of the command for many phrases. -/
  | batch
deriving DecidableEq

/-- The scope that the name of a command opens. -/
def Scope.ofName? (name : String) : Option Scope :=
  if name = "interpret" then some .interpret
  else if name = "batch" then some .batch
  else none

/-- Whether a scope has a place for an argument.  A phrase may be empty, the path of a file not. -/
def Scope.admits : Scope → String → Bool
  | .program, _ => false
  | .interpret, _ => true
  | .batch, file => file != ""

/-- A switch. -/
inductive Switch where
  /-- More messages, none of which is on the standard output. -/
  | verbose
  /-- The usage. -/
  | help
  /-- The version. -/
  | version
  /-- The format to print in. -/
  | format
  /-- The location to prefer. -/
  | location
deriving DecidableEq

namespace Switch

/-- The letter of a switch. -/
def letter : Switch → Char
  | .verbose => 'v'
  | .help => 'h'
  | .version => 'V'
  | .format => 'f'
  | .location => 'd'

/-- The name of a switch. -/
def name : Switch → String
  | .verbose => "verbose"
  | .help => "help"
  | .version => "version"
  | .format => "format"
  | .location => "default-location"

/-- Whether a switch comes with a value. -/
def takesValue : Switch → Bool
  | .format | .location => true
  | .verbose | .help | .version => false

end Switch

/-- The switches that are known in a scope. -/
def Scope.switches : Scope → List Switch
  | .program => [.verbose, .help, .version]
  | .interpret => [.format, .location, .verbose, .help]
  | .batch => [.verbose, .help]

/-- What has been read of the arguments in a scope. -/
structure Draft where
  /-- Whether more messages are wished for. -/
  verbose : Bool := false
  /-- The format to print in. -/
  format : Option Format := none
  /-- The location to prefer. -/
  location : Option String := none
  /-- The phrase or the path of the file. -/
  argument : Option String := none
  /-- The switch whose value comes next. -/
  pending : Option Switch := none
  /-- Whether a double hyphen says that there are no more switches. -/
  isClosed : Bool := false

namespace Draft

/-- The draft with the value of a switch, which may be given only once. -/
def assign (draft : Draft) (value : String) : Switch → Except Stop Draft
  | .format =>
      match draft.format, Format.ofName? value with
      | none, some format => .ok { draft with format := some format, pending := none }
      | _, _ => .error .misuse
  | .location =>
      match draft.location with
      | none => .ok { draft with location := some value, pending := none }
      | some _ => .error .misuse
  | .verbose | .help | .version => .error .misuse

/-- The draft after a switch, which may have a value attached to it. -/
def turn (draft : Draft) (switch : Switch) : Option String → Except Stop Draft
  | some value => draft.assign value switch
  | none =>
      match switch with
      | .verbose => if draft.verbose then .error .misuse else .ok { draft with verbose := true }
      | .help | .version => .error .notice
      | .format | .location => .ok { draft with pending := some switch }

/-- The draft after a switch given by name, with its value after an equals sign. -/
def takeName (scope : Scope) (draft : Draft) (text : Text) : Except Stop Draft :=
  match Text.cutAt '=' text with
  | (name, value) =>
      match scope.switches.find? fun switch => switch.name.toList == name with
      | some switch => draft.turn switch (value.map String.ofList)
      | none => .error .misuse

/-- The value that follows the letter of a switch, perhaps after an equals sign. -/
def attached? : Text → Option String
  | [] => none
  | '=' :: value => some (String.ofList value)
  | value => some (String.ofList value)

/-- The draft after some letters, of which the first that takes a value ends the row. -/
def takeLetters (scope : Scope) : Draft → Text → Except Stop Draft
  | draft, [] => .ok draft
  | draft, letter :: rest =>
      match scope.switches.find? fun switch => switch.letter == letter with
      | some switch =>
          if switch.takesValue then draft.turn switch (attached? rest)
          else do takeLetters scope (← draft.turn switch none) rest
      | none => .error .misuse

/-- The draft with an argument that is no switch, of which a scope has at most one. -/
def place (scope : Scope) (draft : Draft) (argument : String) : Except Stop Draft :=
  if draft.argument.isNone && scope.admits argument then
    .ok { draft with argument := some argument }
  else .error .misuse

/-- The draft after one more argument.  A single hyphen is no switch. -/
def take (scope : Scope) (draft : Draft) (argument : String) : Except Stop Draft :=
  if draft.isClosed then draft.place scope argument
  else
    match argument.toList, draft.pending with
    | '-' :: _ :: _, some _ => .error .misuse
    -- Nothing that could follow has a place before the name of a command.
    | ['-', '-'], none =>
        if scope = .program then .error .misuse else .ok { draft with isClosed := true }
    | '-' :: '-' :: name, none => draft.takeName scope name
    | '-' :: letter :: letters, none => draft.takeLetters scope (letter :: letters)
    | _, some switch => draft.assign argument switch
    | _, none => draft.place scope argument

/-- The command that a complete draft asks for. -/
def command (draft : Draft) : Scope → Except Stop Command
  | .program => .error .misuse
  | .interpret =>
      match draft.pending, draft.argument with
      | none, some phrase => .ok (.interpret phrase (draft.format.getD .text) draft.location)
      | _, _ => .error .misuse
  | .batch => .ok (.batch draft.argument)

/-- The command that a draft comes to with some more arguments. -/
def complete (scope : Scope) : Draft → List String → Except Stop Command
  | draft, [] => draft.command scope
  | draft, argument :: rest => do complete scope (← draft.take scope argument) rest

end Draft

/-- What a wish for help comes to, which may name one thing to help with. -/
def help : List String → Stop
  | [] => .notice
  | [topic] => if topic ∈ ["interpret", "batch", "help"] then .notice else .misuse
  | _ => .misuse

/-- The command that arguments ask for, given the draft of the switches of the program. -/
def commandAfter (draft : Draft) : List String → Except Stop Command
  | [] => .error .misuse
  | argument :: rest =>
      if argument = "help" then .error (help rest)
      else
        match Scope.ofName? argument with
        | some scope => Draft.complete scope {} rest
        | none => do commandAfter (← draft.take .program argument) rest

/-- The command that the arguments of the program ask for. -/
def command (arguments : List String) : Except Stop Command :=
  commandAfter {} arguments

/-- The arguments that ask for the interpretation of a phrase, with what its switches are given. -/
def interpretArguments (phrase : String) (format location : Option String) : List String :=
  "interpret" :: (format.map ("--format=" ++ ·)).toList ++
    (location.map ("--default-location=" ++ ·)).toList ++ ["--", phrase]

/-- What running the program comes to. -/
structure Outcome where
  /-- The exit code. -/
  exit : Nat
  /-- What is printed on the standard output. -/
  output : String := ""
deriving DecidableEq

/-- What comes of arguments that ask for no command. -/
def Stop.outcome : Stop → Outcome
  | .notice => ⟨0, ""⟩
  | .misuse => ⟨2, ""⟩

/-- What a command comes to, given the lines for a batch unless they cannot be read. -/
def Command.outcome (input : Option String) : Command → Outcome
  | .interpret phrase format location => ⟨0, CommandLine.interpret format location phrase⟩
  | .batch _ =>
      match input with
      | some input => ⟨0, CommandLine.batch input⟩
      | none => ⟨1, ""⟩

/-- What running the program with some arguments comes to. -/
def outcome (arguments : List String) (input : Option String) : Outcome :=
  match command arguments with
  | .ok command => command.outcome input
  | .error stop => stop.outcome

/-- Interpreting a phrase in a format given by name. -/
def runInterpret (phrase : String) (format location : Option String) : Outcome :=
  outcome (interpretArguments phrase format location) none

/-- Interpreting the lines of an input, which is missing if it could not be opened. -/
def runBatch (input : Option String) : Outcome :=
  outcome ["batch"] input

end CommandLine
end SearchPhrase
