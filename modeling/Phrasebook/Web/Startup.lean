import Phrasebook.Shelf
import Phrasebook.Text.Quoted
import Phrasebook.Text.Terminal

/-!
# Starting the web service

Before it serves anything the service loads the locales of its configuration and logs what became of
each. The log may be shown on a terminal, so nothing in it steers one.
-/

set_option autoImplicit false

namespace Phrasebook.Web

/-- How serious an entry of the log is. -/
inductive Level where
  | info
  | warn
  deriving DecidableEq, Repr

/-- An entry of the log. -/
structure LogEntry where
  level : Level
  text : String
  deriving DecidableEq, Repr

/-- The entry with that text. -/
def LogEntry.ofText (level : Level) (text : String) : LogEntry := ⟨level, Text.forTerminal text⟩

/-- What is logged about a locale. -/
def LogEntry.ofOutcome (outcome : Outcome) : LogEntry :=
  match outcome.error with
  | none => .ofText .info ("Locale '" ++ outcome.locale ++ "' ready")
  | some e => .ofText .warn ("Locale '" ++ outcome.locale ++ "' unavailable: " ++ e.message)

/-- Loads the locales of the configuration, and logs first what is asked for and then what came of
it. -/
def startup {m : Type → Type} [Monad m] (read : String → m (Except ReadFailure (List UInt8)))
    (config : Config) : m (Shelf × List LogEntry) := do
  let shelf ← Shelf.loadDirectory read [] config
  let opening : LogEntry := .ofText .info
    ("Loading locales " ++ Text.quoteList config.locales ++ " from " ++ config.directory)
  pure (shelf, opening :: shelf.outcomes.map LogEntry.ofOutcome)

end Phrasebook.Web
