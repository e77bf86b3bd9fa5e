import Phrasebook.Domain.Direction
import Phrasebook.Domain.Joining
import Phrasebook.Domain.Punycode
import Phrasebook.Domain.Spelling
import Phrasebook.Text.Split

/-!
# Domain names

A name is made of labels with full stops between them. A label of ASCII is taken as it is, unless it
says that it encodes another text; then that text is looked at, as the text of any other label is.
`isName` says which spellings are those of names, and `written` writes a name in ASCII.
-/

set_option autoImplicit false

namespace Phrasebook.Domain

/-- The most characters of an encoding. -/
def longestCode : Nat := 2000

/-- The most characters of a text that has to be encoded. -/
def longestText : Nat := 1000

/-- Whether the text is all ASCII. -/
def isAscii (text : List Char) : Bool := text.all (·.toNat < 0x80)

/-- The text of a label in the spelling of names, if it has one. A label that encodes its text has
to need it, so its encoding does not end within the part that stands for itself, and the text has to
be settled. -/
def labelText? (label : List Char) : Option (List Char) :=
  match label with
  | 'x' :: 'n' :: '-' :: '-' :: code =>
    if code.length ≤ longestCode ∧ code.getLast?.any (· != '-') then
      (Punycode.decode? code).filter isSettled
    else none
  | _ => some label

/-- Whether a text can be that of a label by itself. -/
def isLabelText (text : List Char) : Bool :=
  !text.head?.any Text.isMark && joinersStandWell [] text
    && (isAscii text || decide (text.length ≤ longestText))

/-- Whether a spelling is that of a name. -/
def isName (spelling : List Char) : Bool :=
  match (Text.split '.' spelling).mapM labelText? with
  | some texts =>
    texts.all isLabelText && (!texts.any (·.any runsLeft) || texts.all keepsDirection)
  | none => false

/-- A label in ASCII: one that is not all ASCII is encoded. -/
def writtenLabel (label : List Char) : List Char :=
  if isAscii label then label else ['x', 'n', '-', '-'] ++ Punycode.encode label

/-- A name in ASCII. -/
def written (spelling : List Char) : List Char :=
  ['.'].intercalate ((Text.split '.' spelling).map writtenLabel)

end Phrasebook.Domain
