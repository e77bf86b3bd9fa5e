import Phrasebook.LoadError
import Phrasebook.Text.Blank
import Phrasebook.Text.Lowercase

/-!
# Locales

A locale is known by its language code in lowercase. `Locale.normalize` reduces every spelling of a
locale to that, `Locale.check` says which names may name a dictionary, `Locale.detect` finds the
locale of a user in the environment, and `Locale.chain` lists the locales to try, best first.
-/

set_option autoImplicit false

namespace Phrasebook

/-- The variables that are set, with their values. -/
abbrev Environment := String → Option String

namespace Locale

/-! ## Normal form -/

/-- The characters that end the language code. -/
def isSeparator (c : Char) : Bool := c == '-' || c == '_' || c == '.' || c == '@'

/-- The normal form of a locale over its characters. -/
def normalizeChars (s : List Char) : List Char :=
  Text.lowercase (Text.trim (s.takeWhile fun c => !isSeparator c))

/-- The language code of a locale: what stands before the first separator, trimmed and in
lowercase. -/
def normalize (locale : String) : String := String.ofList (normalizeChars locale.toList)

/-! ## Names of dictionaries -/

/-- The characters of the name of a dictionary. -/
def isNameChar (c : Char) : Bool := c.isAlphanum || c == '-' || c == '_'

/-- Refuses a locale that cannot name a dictionary: an empty one, or one with a character other than
an ASCII letter or digit, a hyphen or an underscore. -/
def check (locale : String) : Except LoadError Unit :=
  if locale.isEmpty then
    .error (.invalidLocale "empty locale cannot name a dictionary file")
  else
    match locale.toList.find? fun c => !isNameChar c with
    | some c =>
      .error (.invalidLocale ("'" ++ String.singleton c ++ "' in locale '" ++ locale
        ++ "' is not allowed in a dictionary file name"))
    | none => .ok ()

/-! ## The user's locale -/

/-- The variables that name the user's locale, the strongest first. -/
def variableNames : List String := ["LC_ALL", "LC_MESSAGES", "LANG"]

/-- The language that the value of a variable names. The portable locales name none. -/
def language? (value : String) : Option String :=
  let locale := normalize value
  if locale.isEmpty || locale == "c" || locale == "posix" then none else some locale

/-- The user's locale: that of the first variable that names a language. -/
def detect (env : Environment) : Option String :=
  variableNames.findSome? fun name => (env name).bind language?

/-! ## The order of preference -/

/-- The distinct locales of a list, in order of first occurrence. -/
def distinct (locales : List String) : List String :=
  locales.foldl (fun seen locale => if locale ∈ seen then seen else seen ++ [locale]) []

/-- The locales to try: the forced one, the detected one and the default, in normal form and without
repetition. -/
def chain (forced detected : Option String) (default : String) : List String :=
  distinct (([forced, detected, some default].filterMap id).map normalize |>.filter (!·.isEmpty))

end Locale

end Phrasebook
