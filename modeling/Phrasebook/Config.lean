import Phrasebook.Locale
import Phrasebook.Source.Directory
import Phrasebook.Text.Split

/-!
# Configuration

Where the dictionaries are and which locales to use. A configuration starts from `Config.default`;
`Config.ofEnvironment` reads the variables `LOCALIZE_*`, and the functions `with…` set one field
each. Whatever names a locale is brought to normal form on the way.
-/

set_option autoImplicit false

namespace Phrasebook

/-- Where dictionaries live and which locales to use. -/
structure Config where
  /-- The directory of the dictionaries. -/
  directory : String
  /-- The locale to fall back to. -/
  defaultLocale : String
  /-- The locale that goes before the user's. -/
  forcedLocale : Option String
  /-- The locales that are loaded together. -/
  locales : List String
  /-- The label of the encoding of the dictionaries. -/
  encoding : String
  deriving DecidableEq, Repr

namespace Config

/-- What holds where nothing is said. -/
def default : Config where
  directory := "locales"
  defaultLocale := "en"
  forcedLocale := none
  locales := ["en"]
  encoding := Directory.defaultEncoding

/-- A configuration is the default where none is given. -/
instance : Inhabited Config := ⟨default⟩

/-! ## Setting fields -/

/-- Sets the directory. -/
def withDirectory (c : Config) (directory : String) : Config := { c with directory }

/-- Sets the locale to fall back to. -/
def withDefaultLocale (c : Config) (locale : String) : Config :=
  { c with defaultLocale := Locale.normalize locale }

/-- Sets the locale that goes before the user's, or that there is none. -/
def withForcedLocale (c : Config) (locale : Option String) : Config :=
  { c with forcedLocale := locale.map Locale.normalize }

/-- Sets the locales that are loaded together. -/
def withLocales (c : Config) (locales : List String) : Config :=
  { c with locales := locales.map Locale.normalize }

/-- Sets the label of the encoding. -/
def withEncoding (c : Config) (encoding : String) : Config := { c with encoding }

/-! ## The environment -/

/-- The locales of a list separated by commas, in normal form and without empty ones. -/
def localeList (value : String) : List String :=
  ((Text.split ',' value.toList).map fun part => Locale.normalize (String.ofList part)).filter
    (!·.isEmpty)

/-- The value of a variable, if it is not blank. -/
def setting? (env : Environment) (name : String) : Option String :=
  (env name).filter (!Text.isBlankText ·)

/-- The configuration that the environment asks for. A variable with a blank value counts as unset;
where no list of locales is given, it is the default locale alone. -/
def ofEnvironment (env : Environment) : Config :=
  let defaultLocale :=
    ((setting? env "LOCALIZE_DEFAULT_LOCALE").map Locale.normalize).getD default.defaultLocale
  { directory := (setting? env "LOCALIZE_DIR").getD default.directory
    defaultLocale := defaultLocale
    forcedLocale := (setting? env "LOCALIZE_FORCE_LOCALE").map Locale.normalize
    locales := ((setting? env "LOCALIZE_LOCALES").map localeList).getD [defaultLocale]
    encoding := (setting? env "LOCALIZE_ENCODING").getD default.encoding }

/-- The directory of the dictionaries, with their encoding. -/
def source (c : Config) : Directory := ⟨c.directory, c.encoding⟩

end Config

end Phrasebook
