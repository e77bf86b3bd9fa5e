import Phrasebook.Message
import Phrasebook.Text.Quoted

/-!
# Templates

A template is compiled element by element: `Template.compile` gives the message, and
`Template.warnings` names the elements that are malformed. Neither depends on the other, so a
compilation may be repeated without being reported twice.
-/

set_option autoImplicit false

namespace Phrasebook

/-- The elements of a message, as their author wrote them. -/
abbrev Template := List String

/-- An element of a message that has marks and no content. -/
structure Warning where
  key : String
  index : Nat
  element : String
  deriving DecidableEq, Repr

/-- What the warning says. -/
def Warning.message (w : Warning) : String :=
  "template string " ++ Text.quote w.element ++ " at index " ++ toString w.index ++ " in message '"
    ++ w.key ++ "' should contain at least one non-control symbol or be empty"

namespace Template

/-- The message of a template. -/
def compile (template : Template) : Message := template.map Segment.ofElement

/-- The warnings of the elements from the given index on. -/
def warningsFrom (key : String) (index : Nat) : Template → List Warning
  | [] => []
  | element :: rest =>
    if (Element.read element).malformed then
      ⟨key, index, element⟩ :: warningsFrom key (index + 1) rest
    else warningsFrom key (index + 1) rest

/-- One warning for each malformed element, in order. -/
def warnings (key : String) (template : Template) : List Warning := warningsFrom key 0 template

end Template

end Phrasebook
