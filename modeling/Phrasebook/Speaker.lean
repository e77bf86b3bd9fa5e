import Phrasebook.Config
import Phrasebook.Dictionary.Lifecycle
import Phrasebook.Loading

/-!
# Speakers of one locale

A speaker renders messages in one locale. It is started with a chain of locales and settles on the
first whose dictionary loads; every step of that search stays in its history. A speaker that found
no dictionary renders everything as nothing.
-/

set_option autoImplicit false

namespace Phrasebook

/-- A step in the search for a dictionary. -/
inductive SearchStep where
  /-- The first locale of the chain is tried. -/
  | requested (locale : String)
  /-- The dictionary of a locale could not be loaded. -/
  | failed (locale : String) (error : LoadError)
  /-- A later locale of the chain is tried. -/
  | requestedFallback (locale : String)
  /-- The dictionary of the locale has been loaded. -/
  | ready (locale : String)
  /-- The chain is exhausted. -/
  | exhausted
  deriving DecidableEq, Repr

/-- A renderer of messages in one locale, with the search that led to the locale and the warnings of
its dictionary. -/
structure Speaker where
  active : Option (String × Catalog)
  history : List SearchStep
  warnings : List Warning
  deriving DecidableEq

namespace Speaker

/-- A speaker that has not been started. -/
def silent : Speaker := ⟨none, [], []⟩

/-- A speaker of a locale whose catalog is at hand. -/
def ofCatalog (locale : String) (catalog : Catalog) : Speaker :=
  ⟨some (Locale.normalize locale, catalog), [.ready (Locale.normalize locale)], []⟩

/-- The step of asking for a locale. -/
def request (fallback : Bool) (locale : String) : SearchStep :=
  if fallback then .requestedFallback locale else .requested locale

/-- Tries the locales one after the other, behind the steps taken so far. -/
def search (history : List SearchStep) (fallback : Bool) : List String → Fetching Speaker
  | [] => .done ⟨none, history ++ [.exhausted], []⟩
  | locale :: rest =>
    (Draft.load locale).bind fun
      | .ok draft =>
        let (catalog, warnings) := draft.compile
        let history := history ++ [request fallback locale, .ready locale]
        .done ⟨some (locale, catalog), history, warnings⟩
      | .error e =>
        search (history ++ [request fallback locale, .failed locale e]) true rest

/-- Starts a speaker: it tries the forced locale, the detected one and the default. -/
def start (config : Config) (detected : Option String) : Fetching Speaker :=
  search [] false (Locale.chain config.forcedLocale detected config.defaultLocale)

/-- Starts a speaker on the directory of the configuration, for the user of the environment. -/
def startInDirectory {m : Type → Type} [Monad m]
    (read : String → m (Except ReadFailure (List UInt8))) (config : Config) (env : Environment) :
    m Speaker :=
  (start config (Locale.detect env)).run (config.source.fetch read)

/-- Whether there is a dictionary. -/
def isReady (s : Speaker) : Bool := s.active.isSome

/-- The locale. -/
def locale? (s : Speaker) : Option String := s.active.map (·.1)

/-- The dictionary. -/
def catalog? (s : Speaker) : Option Catalog := s.active.map (·.2)

/-- The message under the key with the values spliced in; nothing for an unknown key, or without a
dictionary. -/
def render (s : Speaker) (key : String) (values : Substitution) : String :=
  match s.catalog? with
  | some catalog => catalog.render key values
  | none => ""

end Speaker

end Phrasebook
