import Phrasebook.CommandLine.Command

/-!
# The command line

Runs a command on the disk and in the environment of the process. Everything it decides is decided
in `Phrasebook.CommandLine`.
-/

set_option autoImplicit false

namespace Phrasebook

/-- The variables that a command looks at. -/
def environmentNames : List String :=
  Locale.variableNames ++ ["LOCALIZE_DIR", "LOCALIZE_DEFAULT_LOCALE", "LOCALIZE_FORCE_LOCALE",
    "LOCALIZE_LOCALES", "LOCALIZE_ENCODING"]

/-- The environment of the process. -/
def processEnvironment : IO Environment := do
  let settings ← environmentNames.filterMapM fun name => do
    let value ← IO.getEnv name
    pure (value.map (name, ·))
  pure fun name => (settings.find? (·.1 == name)).map (·.2)

/-- A failure to which the system gives a number, of either sign, and a reason. -/
def systemFailure (code : UInt32) (reason : String) : ReadFailure :=
  let number := if code < 0x80000000 then code else 0 - code
  if number = 20 then .notDirectory
  else if number = 21 then .isDirectory
  else if number = 36 then .nameTooLong
  else ⟨false, reason ++ " (os error " ++ toString number ++ ")"⟩

/-- A failure to read a file. -/
def readFailure : IO.Error → ReadFailure
  | .noFileOrDirectory .. => .notFound
  | .inappropriateType _ code reason => systemFailure code reason
  | .permissionDenied _ code reason => systemFailure code reason
  | .invalidArgument _ code reason => systemFailure code reason
  | .resourceExhausted _ code reason => systemFailure code reason
  | .otherError code reason => systemFailure code reason
  | other => ⟨false, toString other⟩

/-- Reads a file of the disk. -/
def readFile (path : String) : IO (Except ReadFailure (List UInt8)) := do
  match ← (IO.FS.readBinFile path).toBaseIO with
  | .ok bytes => pure (.ok bytes.toList)
  | .error e => pure (.error (readFailure e))

/-- What the words should have been. -/
def usage : String :=
  "Usage: phrasebook render KEY [NAME=VALUE]... [-l LOCALE] [--default-locale LOCALE]"
    ++ " [-d DIR] [-e ENCODING]\n       phrasebook check [LOCALE]... [-d DIR] [-e ENCODING]"

end Phrasebook

/-- Runs the command that the words spell. -/
def main (words : List String) : IO UInt32 := do
  match Phrasebook.CommandLine.Command.ofWords? words with
  | none =>
    IO.eprintln Phrasebook.usage
    pure Phrasebook.CommandLine.usageExitCode
  | some command =>
    let env ← Phrasebook.processEnvironment
    let report ← command.run Phrasebook.readFile env
    for line in report.lines do
      IO.println line
    if let some failure := report.failure then
      IO.eprintln failure.line
    pure report.exitCode
