import Phrasebook.Config
import Phrasebook.Json.Value

/-!
# Configurations as documents

A configuration is written as an object of five members, and read from an object that may have any
of them in any order, or from an array of their values in the order of the fields, of which a tail
may be missing. What is missing keeps its default; a member that no field has the name of is passed
over, whatever its value is, and a field that is named twice is refused.
-/

set_option autoImplicit false

namespace Phrasebook.Config

open Json (Tree Value StringUnit)

/-! ## Values of fields -/

/-- A text. -/
def textField? : Tree → Option String
  | .string units => (Json.text? units).map String.ofList
  | _ => none

/-- A text, or null for none. -/
def optionalField? : Tree → Option (Option String)
  | .null => some none
  | tree => (textField? tree).map some

/-- An array of texts. -/
def listField? : Tree → Option (List String)
  | .array items => items.mapM textField?
  | _ => none

/-! ## Reading -/

/-- The value of the field that is named once among the members, the fallback if it is not named. -/
def field? {α : Type} (members : List (String × Tree)) (name : String) (fallback : α)
    (read : Tree → Option α) : Option α :=
  match members.filter (·.1 == name) with
  | [] => some fallback
  | [member] => read member.2
  | _ => none

/-- The names of members as texts. -/
def named? (members : List (List StringUnit × Tree)) : Option (List (String × Tree)) :=
  members.mapM fun member => (Json.text? member.1).map fun name => (String.ofList name, member.2)

/-- The configuration of an object. -/
def ofMembers? (members : List (List StringUnit × Tree)) : Option Config := do
  let members ← named? members
  let directory ← field? members "dictionary_dir" default.directory textField?
  let defaultLocale ← field? members "default_locale" default.defaultLocale textField?
  let forcedLocale ← field? members "forced_locale" default.forcedLocale optionalField?
  let locales ← field? members "locales" default.locales listField?
  let encoding ← field? members "encoding" default.encoding textField?
  some { directory, defaultLocale, forcedLocale, locales, encoding }

/-- The value of the item in that place, the fallback if the array ends before it. -/
def item? {α : Type} (items : List Tree) (index : Nat) (fallback : α) (read : Tree → Option α) :
    Option α :=
  match items[index]? with
  | none => some fallback
  | some item => read item

/-- The configuration of an array. -/
def ofItems? (items : List Tree) : Option Config := do
  let directory ← item? items 0 default.directory textField?
  let defaultLocale ← item? items 1 default.defaultLocale textField?
  let forcedLocale ← item? items 2 default.forcedLocale optionalField?
  let locales ← item? items 3 default.locales listField?
  let encoding ← item? items 4 default.encoding textField?
  if items.length ≤ 5 then some { directory, defaultLocale, forcedLocale, locales, encoding }
  else none

/-- Reads a configuration. -/
def ofText? (text : String) : Option Config :=
  match Tree.ofText? text.toList with
  | some (.object members) => ofMembers? members
  | some (.array items) => ofItems? items
  | _ => none

/-! ## Writing -/

/-- The document of a configuration. -/
def toJson (c : Config) : Value :=
  .object [
    ("dictionary_dir", .string c.directory),
    ("default_locale", .string c.defaultLocale),
    ("forced_locale", match c.forcedLocale with
      | some locale => .string locale
      | none => .null),
    ("locales", .array (c.locales.map .string)),
    ("encoding", .string c.encoding)]

end Phrasebook.Config
