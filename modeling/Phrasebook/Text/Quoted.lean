import Phrasebook.Text.Category
import Phrasebook.Text.Hexadecimal
import Phrasebook.Text.PrintableTable

/-!
# Quoted text

A text between double quotes, as messages show a piece of input: the quote and the backslash are
escaped, five control characters have letters, and every character without a glyph of its own is
spelled by its number. `quoteList` writes a list of such texts.
-/

set_option autoImplicit false

namespace Phrasebook.Text

/-- Whether the character shows by itself. -/
def isPrintable (c : Char) : Bool :=
  isAssigned c && !isNonspacingMark c && !inRanges hiddenRanges c.toNat

/-- One character inside double quotes. -/
def quoteChar (c : Char) : List Char :=
  if c = '"' then ['\\', '"']
  else if c = '\\' then ['\\', '\\']
  else if c = '\n' then ['\\', 'n']
  else if c = '\r' then ['\\', 'r']
  else if c = '\t' then ['\\', 't']
  else if c = '\x00' then ['\\', '0']
  else if isPrintable c then [c]
  else ['\\', 'u', '{'] ++ hexDigits c.toNat ++ ['}']

/-- The text between double quotes. -/
def quote (s : String) : String :=
  String.ofList ('"' :: s.toList.flatMap quoteChar ++ ['"'])

/-- The quoted texts, separated by commas, between square brackets. -/
def quoteList (texts : List String) : String :=
  "[" ++ ", ".intercalate (texts.map quote) ++ "]"

end Phrasebook.Text
