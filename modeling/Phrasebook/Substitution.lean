import Phrasebook.Json.Compact
import Std.Data.HashMap
import Std.Data.TreeMap

/-!
# Substitutions

A substitution gives values to placeholders by name, and none to the names it does not know. It is
made from a map of texts, be it a sorted list, a hash table or a search tree, from a list of pairs,
of which the first one counts, or from the members of a JSON object, whose values are spliced in as
text.
-/

set_option autoImplicit false

namespace Phrasebook

/-- The value of each placeholder that has one. -/
def Substitution : Type := String → Option String

namespace Substitution

/-- Looks the values up in a map. -/
def ofMap (values : KeyMap String) : Substitution := values.get?

/-- Looks the values up in a hash table. -/
def ofHashMap (values : Std.HashMap String String) : Substitution := fun name => values[name]?

/-- Looks the values up in a search tree. -/
def ofTreeMap (values : Std.TreeMap String String) : Substitution := fun name => values[name]?

/-- Takes the value of the first pair with the name. -/
def ofPairs (pairs : List (String × String)) : Substitution := fun name =>
  KeyMap.findEntry name pairs

/-- The text that a JSON value stands for: a string for itself, null for nothing, anything else for
its compact text. -/
def jsonText? : Json.Value → Option String
  | .null => none
  | .string s => some s
  | value => some value.compact

/-- Takes the text of the member with the name. -/
def ofObject (members : KeyMap Json.Value) : Substitution := fun name =>
  (members.get? name).bind jsonText?

end Substitution

end Phrasebook
