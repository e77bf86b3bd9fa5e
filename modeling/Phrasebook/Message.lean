import Phrasebook.Element
import Phrasebook.Substitution

/-!
# Messages

A compiled template: one segment for each element, with the text that never changes already in its
final form. Rendering a message writes its segments one behind the other, looking up the value of
each placeholder; a placeholder without a value adds nothing but its space.
-/

set_option autoImplicit false

namespace Phrasebook

/-- A piece of a message. -/
inductive Segment where
  /-- Text, with the space behind it if there is one. -/
  | literal (text : String)
  /-- The name of a placeholder, and whether a space follows its value. -/
  | placeholder (name : String) (spaced : Bool)
  deriving DecidableEq, Repr

namespace Segment

/-- The segment of a content without marks. -/
def ofContent (kind : Kind) (content : String) : Segment :=
  if kind.dynamic then .placeholder content kind.spaced
  else .literal (if kind.spaced then content ++ " " else content)

/-- The segment of an element. -/
def ofElement (element : String) : Segment :=
  let reading := Element.read element
  ofContent reading.kind reading.content

/-- Whether the segment is a placeholder. -/
def isPlaceholder : Segment → Bool
  | .literal _ => false
  | .placeholder _ _ => true

/-- The name of a placeholder. -/
def name? : Segment → Option String
  | .literal _ => none
  | .placeholder name _ => some name

/-- Whether a space has to be written behind the value. The text of a literal holds it already. -/
def isSpaced : Segment → Bool
  | .literal _ => false
  | .placeholder _ spaced => spaced

/-- The text of a literal. -/
def text? : Segment → Option String
  | .literal text => some text
  | .placeholder _ _ => none

/-- The segment as it is shown to authors, with the name of a placeholder in braces. -/
def display : Segment → String
  | .literal text => text
  | .placeholder name spaced => "\x7b" ++ name ++ "\x7d" ++ (if spaced then " " else "")

/-- What the segment writes. -/
def render (values : Substitution) : Segment → String
  | .literal text => text
  | .placeholder name spaced => (values name).getD "" ++ (if spaced then " " else "")

end Segment

/-- The segments of a message, in order. -/
abbrev Message := List Segment

namespace Message

/-- The message with the values of its placeholders spliced in. -/
def render (message : Message) (values : Substitution) : String :=
  String.join (message.map (Segment.render values))

/-- The names of the placeholders, in order of appearance. -/
def placeholders (message : Message) : List String := message.filterMap Segment.name?

end Message

end Phrasebook
