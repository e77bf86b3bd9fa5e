import Phrasebook.Text.Hexadecimal

/-!
# Text for a terminal

A text from outside could steer the terminal that shows it. `forTerminal` spells out the characters
that do so; tabs, line ends and the remaining controls stay as they are.
-/

set_option autoImplicit false

namespace Phrasebook.Text

/-- The ASCII characters that ring, move back, clear or begin a sequence. -/
def isSteering (c : Char) : Bool := ['\x07', '\x08', '\x0C', '\x1B', '\x7F'].contains c

/-- One character as a terminal is given it. -/
def terminalChar (c : Char) : List Char :=
  if isSteering c then ['\\', 'x'] ++ hexPadded 2 c.toNat
  else if 0x80 ≤ c.toNat ∧ c.toNat ≤ 0x9F then ['\\', 'u', '{'] ++ hexDigits c.toNat ++ ['}']
  else [c]

/-- The text without anything that steers a terminal. -/
def forTerminal (s : String) : String := String.ofList (s.toList.flatMap terminalChar)

end Phrasebook.Text
