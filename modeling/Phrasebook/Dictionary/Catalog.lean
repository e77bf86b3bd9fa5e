import Phrasebook.Dictionary.Draft

/-!
# Compiled dictionaries

A catalog holds one message per key. A draft is compiled entry by entry; the order in which the
entries are visited shows in the order of the warnings and nowhere else.
-/

set_option autoImplicit false

namespace Phrasebook

/-- The messages of a locale. -/
abbrev Catalog := KeyMap Message

namespace Catalog

/-- The message under the key with the values spliced in, if there is one. -/
def render? (catalog : Catalog) (key : String) (values : Substitution) : Option String :=
  (catalog.get? key).map (Message.render · values)

/-- The message under the key with the values spliced in, nothing for an unknown key. -/
def render (catalog : Catalog) (key : String) (values : Substitution) : String :=
  (catalog.render? key values).getD ""

end Catalog

namespace Draft

/-- Compiles entries in the order in which they are visited. -/
def compileEntries (entries : List (String × Template)) : Catalog × List Warning :=
  (KeyMap.ofList (entries.map fun entry => (entry.1, Template.compile entry.2)),
    entries.flatMap fun entry => Template.warnings entry.1 entry.2)

/-- The catalog of a draft and the warnings of its templates, by ascending key. -/
def compile (draft : Draft) : Catalog × List Warning := compileEntries draft.entries

end Draft

end Phrasebook
