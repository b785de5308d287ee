import NetworkTwin.Policy.Evaluation
import NetworkTwin.Severity

/-!
Arguments of the command line. The first argument that is no option names a command, and each
command has options of its own. An option with a value is given once, by its name or by a letter;
its value is the next argument or follows in the same one. Some options can also be set in the
environment.
-/

namespace NetworkTwin

inductive UsageError where
  | noCommand
  | unknownCommand (word : String)
  | unknownOption (word : String)
  | unexpectedArgument (word : String)
  | unexpectedValue (option : String)
  | missingValue (option : String)
  | repeatedOption (option : String)
  | badValue (option value : String)
  | missingOption (option : String)
deriving DecidableEq, Repr

def UsageError.message : UsageError → String
  | .noCommand => "a command is required"
  | .unknownCommand word => "unrecognized command '" ++ word ++ "'"
  | .unknownOption word => "unexpected option '" ++ word ++ "'"
  | .unexpectedArgument word => "unexpected argument '" ++ word ++ "'"
  | .unexpectedValue option => "option '--" ++ option ++ "' takes no value"
  | .missingValue option => "option '--" ++ option ++ "' needs a value"
  | .repeatedOption option => "option '--" ++ option ++ "' cannot be used twice"
  | .badValue option value => "invalid value '" ++ value ++ "' for '--" ++ option ++ "'"
  | .missingOption option => "option '--" ++ option ++ "' is required"

inductive ValueKind where
  | text
  | milliseconds
  | port
  | severity
deriving DecidableEq, Repr

/-- A natural number of 64 bits in decimal; a plus sign may stand in front. -/
def readMilliseconds? (word : String) : Option UInt64 :=
  (Text.naturalBelow? UInt64.size word.toList).map UInt64.ofNat

/-- A port in decimal. A sign may stand in front, a minus sign only of zero. -/
def readPort? (word : String) : Option UInt16 :=
  match word.toList with
  | '-' :: digits => if Text.digits? 10 digits = some 0 then some 0 else none
  | digits => (Text.naturalBelow? UInt16.size digits).map UInt16.ofNat

def ValueKind.accepts (kind : ValueKind) (word : String) : Bool :=
  match kind with
  | .text => true
  | .milliseconds => (readMilliseconds? word).isSome
  | .port => (readPort? word).isSome
  | .severity => (Severity.read? word).isSome

/-- An option with a value: its name, its letter if it has one, the variable of the environment
that may set it, and the kind of its values. -/
structure OptionSpec where
  name : String
  letter : Option Char
  variableName : Option String
  kind : ValueKind
deriving DecidableEq, Repr

inductive Verb where
  | simulate
  | validate
  | policy
  | blast
  | init
deriving DecidableEq, Repr

namespace Verb

def all : List Verb := [.simulate, .validate, .policy, .blast, .init]

def name : Verb → String
  | .simulate => "simulate"
  | .validate => "validate"
  | .policy => "policy"
  | .blast => "blast"
  | .init => "init"

def ofName? (word : String) : Option Verb := all.find? fun verb => verb.name == word

def graphOption : OptionSpec := ⟨"graph", some 'g', some "TWIN_GRAPH", .text⟩

def options : Verb → List OptionSpec
  | .simulate => [
      graphOption,
      ⟨"scenario", some 's', some "TWIN_SCENARIO", .text⟩,
      ⟨"output", some 'o', none, .text⟩,
      ⟨"time-step", none, some "TWIN_TIME_STEP", .milliseconds⟩,
      ⟨"blast-radius", none, none, .text⟩,
      ⟨"fail-on", none, some "TWIN_FAIL_ON", .severity⟩]
  | .validate => [graphOption]
  | .policy => [
      ⟨"policy", some 'p', none, .text⟩,
      graphOption,
      ⟨"from", none, none, .text⟩,
      ⟨"to", none, none, .text⟩,
      ⟨"protocol", none, none, .text⟩,
      ⟨"port", none, none, .port⟩]
  | .blast => [graphOption, ⟨"node", some 'n', none, .text⟩]
  | .init => []

/-- Whether a command takes one argument that is no option. -/
def takesPlace : Verb → Bool
  | .init => true
  | _ => false

def required : Verb → List String
  | .policy => ["policy"]
  | .blast => ["node"]
  | _ => []

/-- Options that have to be given together. -/
def together : Verb → List (String × String)
  | .policy => [("from", "to"), ("to", "from")]
  | _ => []

end Verb

/-- What the arguments of a command say: its options with their values, whether it is to be
verbose, and the argument that is no option. -/
structure Settings where
  values : List (String × String)
  verbose : Bool
  place : Option String
deriving DecidableEq, Repr

namespace Settings

def empty : Settings := ⟨[], false, none⟩

def value? (settings : Settings) (option : String) : Option String :=
  settings.values.lookup option

/-- The settings with a value of an option, which may be given once and has to be of its kind. -/
def add (settings : Settings) (spec : OptionSpec) (value : String) : Except UsageError Settings :=
  if (settings.value? spec.name).isSome then .error (.repeatedOption spec.name)
  else if !spec.kind.accepts value then .error (.badValue spec.name value)
  else .ok { settings with values := (spec.name, value) :: settings.values }

def beVerbose (settings : Settings) : Except UsageError Settings :=
  if settings.verbose then .error (.repeatedOption "verbose")
  else .ok { settings with verbose := true }

end Settings

/-- The result of reading arguments: settings, or a wish to be told about the program. -/
inductive Reading (α : Type) where
  | settings (value : α)
  | help
  | version
deriving DecidableEq, Repr

/-- An argument in its form: the mark after which no options follow, an option by name with what
follows an equals sign, options by letters, or a word. -/
inductive ArgumentForm where
  | mark
  | named (option : String) (value : Option String)
  | letters (letters : List Char)
  | word (text : String)
deriving DecidableEq, Repr

/-- The form of an argument. A lone hyphen is a word. -/
def ArgumentForm.of (argument : String) : ArgumentForm :=
  match argument.toList with
  | ['-', '-'] => .mark
  | '-' :: '-' :: rest =>
      let name := rest.takeWhile (· ≠ '=')
      let after := rest.drop name.length
      .named (String.ofList name)
        (if after.isEmpty then none else some (String.ofList (after.drop 1)))
  | '-' :: letter :: rest => .letters (letter :: rest)
  | _ => .word argument

namespace Arguments

/-- Where the reading of options by letters ends: with settings, with an option that waits for its
value, or with a wish. -/
inductive Letters where
  | settings (value : Settings)
  | waiting (value : Settings) (spec : OptionSpec)
  | help
  | version

/-- Reads options by letters. What follows the letter of an option with a value is the value, an
equals sign between them aside. -/
def readLetters (options : List OptionSpec) (hasVersion : Bool) (settings : Settings) :
    List Char → Except UsageError Letters
  | [] => .ok (.settings settings)
  | letter :: rest =>
      if letter = 'v' then do readLetters options hasVersion (← settings.beVerbose) rest
      else if letter = 'h' then .ok .help
      else if letter = 'V' && hasVersion then .ok .version
      else match options.find? fun spec => spec.letter = some letter with
        | none => .error (.unknownOption ("-" ++ letter.toString))
        | some spec =>
            match rest with
            | [] => .ok (.waiting settings spec)
            | '=' :: value => do return .settings (← settings.add spec (String.ofList value))
            | value => do return .settings (← settings.add spec (String.ofList value))

def readPlaces (verb : Verb) (settings : Settings) :
    List String → Except UsageError (Reading Settings)
  | [] => .ok (.settings settings)
  | argument :: rest =>
      if verb.takesPlace && settings.place.isNone then
        readPlaces verb { settings with place := some argument } rest
      else .error (.unexpectedArgument argument)

/-- Reads the arguments of a command. An option may wait for its value, which cannot look like an
option. -/
def readCommand (verb : Verb) (settings : Settings) (waiting : Option OptionSpec) :
    List String → Except UsageError (Reading Settings)
  | [] =>
      match waiting with
      | some spec => .error (.missingValue spec.name)
      | none => .ok (.settings settings)
  | argument :: rest =>
      match waiting, ArgumentForm.of argument with
      | some spec, .word value => do readCommand verb (← settings.add spec value) none rest
      | some spec, _ => .error (.missingValue spec.name)
      | none, .mark => readPlaces verb settings rest
      | none, .word text =>
          if verb.takesPlace && settings.place.isNone then
            readCommand verb { settings with place := some text } none rest
          else .error (.unexpectedArgument text)
      | none, .named "verbose" none => do readCommand verb (← settings.beVerbose) none rest
      | none, .named "help" none => .ok .help
      | none, .named name value =>
          if name = "verbose" || name = "help" then .error (.unexpectedValue name)
          else match verb.options.find? fun spec => spec.name = name with
            | none => .error (.unknownOption ("--" ++ name))
            | some spec =>
                match value with
                | some value => do readCommand verb (← settings.add spec value) none rest
                | none => readCommand verb settings (some spec) rest
      | none, .letters letters => do
          match ← readLetters verb.options false settings letters with
          | .settings settings => readCommand verb settings none rest
          | .waiting settings spec => readCommand verb settings (some spec) rest
          | .help => return .help
          | .version => return .version

def readHelp : List String → Except UsageError (Reading (Verb × Settings))
  | [] => .ok .help
  | [word] =>
      if (Verb.ofName? word).isSome || word = "help" then .ok .help
      else .error (.unknownCommand word)
  | _ :: word :: _ => .error (.unknownCommand word)

def read (settings : Settings) : List String → Except UsageError (Reading (Verb × Settings))
  | [] => .error .noCommand
  | argument :: rest =>
      match ArgumentForm.of argument with
      | .mark => .error .noCommand
      | .named "verbose" none => do read (← settings.beVerbose) rest
      | .named "help" none => .ok .help
      | .named "version" none => .ok .version
      | .named name _ => .error (.unknownOption ("--" ++ name))
      | .letters letters => do
          match ← readLetters [] true settings letters with
          | .settings settings => read settings rest
          | .waiting _ spec => throw (.missingValue spec.name)
          | .help => return .help
          | .version => return .version
      | .word "help" => readHelp rest
      | .word text =>
          match Verb.ofName? text with
          | none => .error (.unknownCommand text)
          | some verb => do
              match ← readCommand verb .empty none rest with
              | .settings found =>
                  let verbose := found.verbose || settings.verbose
                  return .settings (verb, { found with verbose := verbose })
              | .help => return .help
              | .version => return .version

def addEnvironment (environment : String → Option String) (settings : Settings) :
    List OptionSpec → Except UsageError Settings
  | [] => .ok settings
  | spec :: rest => do
      match settings.value? spec.name, spec.variableName.bind environment with
      | none, some value => addEnvironment environment (← settings.add spec value) rest
      | _, _ => addEnvironment environment settings rest

def checkRequired (verb : Verb) (settings : Settings) : Except UsageError Unit := do
  let isGiven (option : String) : Bool := (settings.value? option).isSome
  match verb.required.find? fun option => !isGiven option with
  | some option => throw (.missingOption option)
  | none =>
      match verb.together.find? fun pair => isGiven pair.1 && !isGiven pair.2 with
      | some pair => throw (.missingOption pair.2)
      | none => return ()

end Arguments

end NetworkTwin
