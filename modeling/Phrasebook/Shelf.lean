import Phrasebook.Config
import Phrasebook.Dictionary.Lifecycle
import Phrasebook.Loading
import Phrasebook.Pool

/-!
# Shelves of dictionaries

A shelf holds the dictionaries of several locales, which are loaded side by side. Loading ends when
every locale has been tried; one that failed stays on the shelf with its error and without a
dictionary. A locale is found under every spelling that has its normal form.
-/

set_option autoImplicit false

namespace Phrasebook

/-- How loading one locale ended. -/
structure Outcome where
  locale : String
  error : Option LoadError
  warnings : List Warning
  deriving DecidableEq

/-- Whether the dictionary was loaded. -/
def Outcome.isOk (outcome : Outcome) : Bool := outcome.error.isNone

/-- The outcomes of several locales, in order, and the dictionary of each that has one. -/
structure Shelf where
  outcomes : List Outcome
  catalogs : KeyMap (Option Catalog)
  deriving DecidableEq

namespace Shelf

/-- A shelf on which nothing stands. -/
def empty : Shelf := ⟨[], KeyMap.empty⟩

/-- What loading a draft amounts to for the shelf. -/
def outcome (locale : String) : Except LoadError Draft → Outcome × Option Catalog
  | .ok draft => (⟨locale, none, draft.compile.2⟩, some draft.compile.1)
  | .error e => (⟨locale, some e, []⟩, none)

/-- Loads one locale. -/
def loadOne (locale : String) : Fetching (Outcome × Option Catalog) :=
  (Draft.load locale).bind fun result => .done (outcome locale result)

/-- Puts a locale behind the others. -/
def add (shelf : Shelf) (entry : Outcome × Option Catalog) : Shelf :=
  ⟨shelf.outcomes ++ [entry.1], shelf.catalogs.insert entry.1.locale entry.2⟩

/-- The locales to load: those that are asked for, in normal form and without repetition. -/
def wanted (locales : List String) : List String := Locale.distinct (locales.map Locale.normalize)

/-- Loads the locales side by side, moving in the order of the schedule, and waits for all. -/
def load {m : Type → Type} [Monad m] (fetch : String → m Answer) (schedule : List Nat)
    (locales : List String) : m Shelf := do
  let entries ← Pool.joinAll fetch schedule ((wanted locales).map loadOne)
  pure (entries.foldl add empty)

/-- Loads the locales, then hands the shelf to the action. -/
def loadThen {m : Type → Type} [Monad m] (fetch : String → m Answer) (schedule : List Nat)
    (locales : List String) (onReady : Shelf → m Unit) : m Shelf := do
  let shelf ← load fetch schedule locales
  onReady shelf
  pure shelf

/-- Loads the locales of a configuration from its directory. -/
def loadDirectory {m : Type → Type} [Monad m]
    (read : String → m (Except ReadFailure (List UInt8))) (schedule : List Nat) (config : Config) :
    m Shelf :=
  load (config.source.fetch read) schedule config.locales

/-- Puts a catalog on the shelf, behind the others and in place of what stood there for its
locale. -/
def insert (shelf : Shelf) (locale : String) (catalog : Catalog) : Shelf :=
  let locale := Locale.normalize locale
  ⟨shelf.outcomes.filter (·.locale != locale) ++ [⟨locale, none, []⟩],
    shelf.catalogs.insert locale (some catalog)⟩

/-- The locales, in the order of the outcomes. -/
def locales (shelf : Shelf) : List String := shelf.outcomes.map (·.locale)

/-- The locales whose dictionaries were loaded. -/
def readyLocales (shelf : Shelf) : List String :=
  (shelf.outcomes.filter Outcome.isOk).map (·.locale)

/-- The dictionary of a locale, however it is spelled. -/
def catalog? (shelf : Shelf) (locale : String) : Option Catalog :=
  (shelf.catalogs.get? (Locale.normalize locale)).join

/-- Whether there is a dictionary of the locale. -/
def isReady (shelf : Shelf) (locale : String) : Bool := (shelf.catalog? locale).isSome

/-- The message under the key with the values spliced in; nothing for an unknown key, or without a
dictionary of the locale. -/
def render (shelf : Shelf) (locale key : String) (values : Substitution) : String :=
  match shelf.catalog? locale with
  | some catalog => catalog.render key values
  | none => ""

end Shelf

end Phrasebook
