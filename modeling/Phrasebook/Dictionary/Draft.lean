import Phrasebook.Json.Value
import Phrasebook.LoadError
import Phrasebook.Template

/-!
# Dictionaries as they are written

A draft holds one template per message key. `Draft.ofText` reads the document of a locale and is
forgiving: keys starting with `@` are left to the authors, and an entry that is not an array of
strings is passed over. `Draft.deserialize?` reads what `Draft.toJson` writes and passes over
nothing.
-/

set_option autoImplicit false

namespace Phrasebook

/-- The templates of a locale. -/
abbrev Draft := KeyMap Template

namespace Draft

/-- Keys starting with `@` are not messages. -/
def isMetadataKey (key : String) : Bool := key.toList.head? == some '@'

/-- The template of a member of the document, unless it is passed over. -/
def template? (key : String) (value : Json.Value) : Option Template :=
  if isMetadataKey key then none else value.strings?

/-- The draft of a document, whose root has to be an object. -/
def ofValue (document : Json.Value) : Except LoadError Draft :=
  match document.members? with
  | none => .error (.invalidShape "root must be an object")
  | some members => .ok (members.filterMap template?)

/-- Reads the document of a locale. -/
def ofText (text : String) : Except LoadError Draft :=
  match Json.Value.ofText? text with
  | none => .error (.invalidJson "not a JSON document")
  | some document => ofValue document

/-! ## Serialised drafts -/

/-- The strings of an array of a document. -/
def strings? : Json.Tree → Option (List String)
  | .array items => items.mapM fun
    | .string units => (Json.text? units).map String.ofList
    | _ => none
  | _ => none

/-- The entry of a member of a document. -/
def entry (member : List Json.StringUnit × Json.Tree) : Option (String × Template) :=
  match Json.text? member.1, strings? member.2 with
  | some key, some template => some (String.ofList key, template)
  | _, _ => none

/-- Reads a document in which every member, those that are overwritten included, is an array of
strings. -/
def deserialize? (text : String) : Option Draft :=
  match Json.Tree.ofText? text.toList with
  | some (.object members) => (members.mapM entry).map KeyMap.ofList
  | _ => none

/-- The document of some entries, in the given order. -/
def jsonOfEntries (entries : List (String × Template)) : Json.Value :=
  .object (entries.map fun entry => (entry.1, .array (entry.2.map .string)))

/-- The document of a draft. -/
def toJson (draft : Draft) : Json.Value := jsonOfEntries draft.entries

end Draft

end Phrasebook
