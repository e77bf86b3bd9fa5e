import Phrasebook.Json.Value
import Phrasebook.Number.Layout

/-!
# Compact JSON text

A value written without white space. Strings escape what they have to and nothing else; doubles are
written with the fewest digits that read back, always with a fraction or an exponent.
-/

set_option autoImplicit false

namespace Phrasebook.Json

/-- Doubles are positional from a hundred-thousandth up to sixteen digits before the point. -/
def doubleLayout : Layout := ⟨-5, 15⟩

/-- A character inside a string: the quote, the backslash and the control characters are escaped. -/
def escapeChar (c : Char) : List Char :=
  if c = '"' then ['\\', '"']
  else if c = '\\' then ['\\', '\\']
  else if c = '\x08' then ['\\', 'b']
  else if c = '\x0C' then ['\\', 'f']
  else if c = '\n' then ['\\', 'n']
  else if c = '\r' then ['\\', 'r']
  else if c = '\t' then ['\\', 't']
  else if c.toNat < 0x20 then ['\\', 'u'] ++ Text.hexPadded 4 c.toNat
  else [c]

/-- A string with its quotes. -/
def writeString (s : List Char) : List Char := '"' :: s.flatMap escapeChar ++ ['"']

/-- A number. -/
def Number.write : Number → List Char
  | .integer n => if n < 0 then '-' :: Nat.toDigits 10 n.natAbs else Nat.toDigits 10 n.natAbs
  | .double negative magnitude =>
    if negative then '-' :: doubleLayout.write magnitude else doubleLayout.write magnitude

namespace Value

mutual

/-- The compact text of a value. -/
def write : Value → List Char
  | .null => ['n', 'u', 'l', 'l']
  | .bool true => ['t', 'r', 'u', 'e']
  | .bool false => ['f', 'a', 'l', 's', 'e']
  | .number n => n.write
  | .string s => writeString s.toList
  | .array [] => ['[', ']']
  | .array (item :: rest) => '[' :: write item ++ writeItems rest
  | .object [] => ['{', '}']
  | .object ((name, value) :: rest) =>
    '{' :: writeString name.toList ++ ':' :: write value ++ writeMembers rest

/-- The items behind the first one of an array, and the bracket. -/
def writeItems : List Value → List Char
  | [] => [']']
  | item :: rest => ',' :: write item ++ writeItems rest

/-- The members behind the first one of an object, and the brace. -/
def writeMembers : List (String × Value) → List Char
  | [] => ['}']
  | (name, value) :: rest =>
    ',' :: writeString name.toList ++ ':' :: write value ++ writeMembers rest

end

/-- The compact text of a value. -/
def compact (v : Value) : String := String.ofList v.write

end Value

end Phrasebook.Json
