import Phrasebook.CommandLine.Arguments
import Phrasebook.Shelf
import Phrasebook.Speaker

/-!
# Commands

`render` prints one message, `check` loads dictionaries and reports what is wrong with them. A
command is read from its words by `Command.ofWords?` and run by `Command.run`, which gives the lines
to print and the failure, if there is one.
-/

set_option autoImplicit false

namespace Phrasebook.CommandLine

/-- What may be said about the dictionaries. -/
structure Choices where
  locale : Option String
  defaultLocale : Option String
  directory : Option String
  encoding : Option String
  deriving DecidableEq, Repr

/-- A command. -/
inductive Command where
  /-- Prints the message under the key, with values given as `name=value`. -/
  | render (key : String) (pairs : List String) (choices : Choices)
  /-- Loads the locales, or those of the configuration if there are none. -/
  | check (locales : List String) (choices : Choices)
  deriving DecidableEq, Repr

/-! ## Reading -/

/-- The options about the place of the dictionaries. -/
def placeFlags : List Flag := [⟨"dir", some 'd'⟩, ⟨"encoding", some 'e'⟩]

/-- The options of `render`. -/
def renderFlags : List Flag := [⟨"locale", some 'l'⟩, ⟨"default-locale", none⟩] ++ placeFlags

/-- What the options choose. -/
def Choices.ofArguments (a : Arguments) : Choices where
  locale := a.option? "locale"
  defaultLocale := a.option? "default-locale"
  directory := a.option? "dir"
  encoding := a.option? "encoding"

/-- The command that the words spell. -/
def Command.ofWords? : List String → Option Command
  | "render" :: rest =>
    match Arguments.ofWords? renderFlags rest with
    | some a =>
      match a.words with
      | key :: pairs => some (.render key pairs (.ofArguments a))
      | [] => none
    | none => none
  | "check" :: rest =>
    (Arguments.ofWords? placeFlags rest).map fun a => .check a.words (.ofArguments a)
  | _ => none

/-! ## Running -/

/-- Why a command failed. -/
inductive Failure where
  /-- A value is not given as `name=value`. -/
  | malformedPair (pair : String)
  /-- No dictionary of the chain could be loaded. -/
  | noDictionary (directory : String)
  /-- Some locales failed to load. -/
  | failedLocales (count : Nat)
  deriving DecidableEq, Repr

/-- The failure in words. -/
def Failure.message : Failure → String
  | malformedPair pair => "Expected name=value, got '" ++ pair ++ "'"
  | noDictionary directory => "No dictionary could be loaded from " ++ directory
  | failedLocales count => toString count ++ " locale(s) failed to load"

/-- What a command has to say: lines to print, and why it failed. -/
structure Report where
  lines : List String
  failure : Option Failure
  deriving DecidableEq, Repr

/-- The line that reports the failure. -/
def Failure.line (failure : Failure) : String := "Error: " ++ Text.quote failure.message

/-- The exit code of a run: 0 for success, 1 for failure. -/
def Report.exitCode (report : Report) : UInt32 := if report.failure.isNone then 0 else 1

/-- The exit code where the words spell no command. -/
def usageExitCode : UInt32 := 2

/-- The name and the value of a pair, told apart by the first equals sign. -/
def pair? (pair : String) : Except Failure (String × String) :=
  match Text.cut? '=' pair.toList with
  | some (name, value) => .ok (String.ofList name, String.ofList value)
  | none => .error (.malformedPair pair)

/-- The values that the pairs give. The first pair that is none decides the failure. -/
def values (pairs : List String) : Except Failure Substitution :=
  (pairs.mapM pair?).map fun pairs => Substitution.ofMap (KeyMap.ofList pairs)

/-- The configuration with what has been chosen in its place. -/
def Choices.apply (choices : Choices) (config : Config) : Config :=
  let config := match choices.directory with
    | some directory => config.withDirectory directory
    | none => config
  let config := match choices.encoding with
    | some encoding => config.withEncoding encoding
    | none => config
  let config := match choices.locale with
    | some locale => config.withForcedLocale (some locale)
    | none => config
  match choices.defaultLocale with
  | some locale => config.withDefaultLocale locale
  | none => config

section

variable {m : Type → Type} [Monad m] (read : String → m (Except ReadFailure (List UInt8)))

/-- Prints one message. -/
def render (env : Environment) (key : String) (pairs : List String) (choices : Choices) :
    m Report :=
  match values pairs with
  | .error failure => pure ⟨[], some failure⟩
  | .ok values => do
    let config := choices.apply (Config.ofEnvironment env)
    let speaker ← Speaker.startInDirectory read config env
    if speaker.isReady then pure ⟨[speaker.render key values], none⟩
    else pure ⟨[], some (.noDictionary config.directory)⟩

/-- What checking one locale found: the number of messages and the warnings, or an error. -/
structure Finding where
  locale : String
  result : Except LoadError (Nat × List Warning)

/-- What a shelf says about one of its outcomes. -/
def Finding.ofOutcome (shelf : Shelf) (outcome : Outcome) : Finding where
  locale := outcome.locale
  result := match outcome.error with
    | some e => .error e
    | none => .ok (((shelf.catalog? outcome.locale).map KeyMap.size).getD 0, outcome.warnings)

/-- Whether the locale failed to load. -/
def Finding.isFailure (finding : Finding) : Bool :=
  match finding.result with
  | .error _ => true
  | .ok _ => false

/-- The lines about a locale. -/
def Finding.lines (finding : Finding) : List String :=
  match finding.result with
  | .error e => ["❌ " ++ finding.locale ++ ": " ++ e.message]
  | .ok (messages, warnings) =>
    ("✅ " ++ finding.locale ++ ": " ++ toString messages ++ " messages, "
      ++ toString warnings.length ++ " warnings") :: warnings.map fun w => "   ⚠️  " ++ w.message

/-- The report on some findings. It is a failure if one of them is. -/
def Report.ofFindings (findings : List Finding) : Report :=
  let failed := (findings.filter Finding.isFailure).length
  ⟨findings.flatMap Finding.lines, if failed = 0 then none else some (.failedLocales failed)⟩

/-- Loads the locales and says what was found. -/
def findings (env : Environment) (locales : List String) (choices : Choices) :
    m (List Finding) := do
  let config := choices.apply (Config.ofEnvironment env)
  let config := if locales.isEmpty then config else config.withLocales locales
  let shelf ← Shelf.loadDirectory read [] config
  pure (shelf.outcomes.map (Finding.ofOutcome shelf))

/-- Loads dictionaries and reports on them. -/
def check (env : Environment) (locales : List String) (choices : Choices) : m Report := do
  let findings ← findings read env locales choices
  pure (Report.ofFindings findings)

/-- Runs a command. -/
def Command.run (env : Environment) : Command → m Report
  | .render key pairs choices => CommandLine.render read env key pairs choices
  | .check locales choices => CommandLine.check read env locales choices

end

end Phrasebook.CommandLine
