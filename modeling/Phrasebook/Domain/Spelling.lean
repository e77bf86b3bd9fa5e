import Phrasebook.Domain.Composition
import Phrasebook.Domain.ListedForms
import Phrasebook.Domain.SpellingTable
import Phrasebook.Text.Category
import Phrasebook.Text.Split

/-!
# The spelling of domain names

A name may be written in several ways: in capitals or small letters, with variants of the letters,
with characters that count for nothing, with marks in another order. `spell?` gives the one spelling
that is looked at further. A text is settled when it is spelled as it is written (`isSettled`).
-/

set_option autoImplicit false

namespace Phrasebook.Domain

/-- The ASCII characters that no name takes: controls, the blank, and signs that set off the parts
of an address. -/
def isForbidden (c : Char) : Bool :=
  decide (c.toNat ≤ 0x20) || ['"', '#', '%', '/', ':', '<', '>', '?', '@', '[', '\\', ']', '^',
    '\x60', '{', '|', '}', '\x7F'].contains c

/-- Whether there is a character that a name may take. -/
def isAvailable (c : Char) : Bool :=
  (Text.isAssigned c || Text.inRanges newcomerRanges c.toNat)
    && !Text.inRanges refusedRanges c.toNat

/-- The rows of listed forms, each form by itself. -/
def listedRows : List (Nat × List (List Char)) :=
  listedForms.map fun (first, forms) => (first, Text.split ' ' forms.toList)

/-- What a code point stands for, if it is listed. -/
def listedForm? (n : Nat) : Option (List Char) :=
  listedRows.findSome? fun (first, forms) => if first ≤ n then forms[n - first]? else none

/-- What a character adds to the spelling of a name, if a name takes it. -/
def spellChar? (c : Char) : Option (List Char) :=
  let n := c.toNat
  if n < 0x80 then some [c.toLower]
  else if !isAvailable c then none
  else if Text.inRanges ignoredRanges n then some []
  else match Text.imageIn? regularForms n with
    | some image => some [Char.ofNat image]
    | none => some ((listedForm? n).getD [c])

/-- The spelling of a name. There is none if a name does not take one of its characters; one that no
name takes may be a part of a composite. -/
def spell? (name : List Char) : Option (List Char) :=
  match name.mapM spellChar? with
  | some spellings =>
    let spelling := composed spellings.flatten
    if spelling.any isForbidden then none else some spelling
  | none => none

/-- Whether a text is spelled as it is written. -/
def isSettled (text : List Char) : Bool := spell? text == some text

end Phrasebook.Domain
