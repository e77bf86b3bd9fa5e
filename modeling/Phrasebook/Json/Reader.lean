import Phrasebook.Json.Tree
import Phrasebook.Text.Hexadecimal

/-!
# Reading JSON

The grammar of RFC 8259, without extensions: each reader takes one construct off the front of a text
and gives it with the rest. `Tree.ofText?` reads a whole document. White space is the space, the tab
and the two line ends; control characters in strings, leading zeros, trailing commas and anything
behind the document are refused.
-/

set_option autoImplicit false

namespace Phrasebook.Json

/-- The four characters that may stand between tokens. -/
def isSpace (c : Char) : Bool := c == ' ' || c == '\t' || c == '\n' || c == '\r'

/-- The text from its first character that is no white space. -/
def skipSpace (s : List Char) : List Char := s.dropWhile isSpace

/-- What stands behind the word, if the text starts with it. -/
def after? : (word : List Char) → List Char → Option (List Char)
  | [], s => some s
  | _ :: _, [] => none
  | w :: word, c :: s => if w = c then after? word s else none

/-! ## Strings -/

/-- The number spelled by four hexadecimal digits. -/
def hex4? (a b c d : Char) : Option Nat :=
  match Text.hexDigit? a, Text.hexDigit? b, Text.hexDigit? c, Text.hexDigit? d with
  | some a, some b, some c, some d => some (((a * 16 + b) * 16 + c) * 16 + d)
  | _, _, _, _ => none

/-- The character that a one-letter escape stands for. -/
def simpleEscape? : Char → Option Char
  | '"' => some '"'
  | '\\' => some '\\'
  | '/' => some '/'
  | 'b' => some '\x08'
  | 'f' => some '\x0C'
  | 'n' => some '\n'
  | 'r' => some '\r'
  | 't' => some '\t'
  | _ => none

/-- Reads a string from behind its opening quote. -/
def string? : List Char → Option (List StringUnit × List Char)
  | [] => none
  | '"' :: rest => some ([], rest)
  | '\\' :: 'u' :: a :: b :: c :: d :: rest =>
    match hex4? a b c d, string? rest with
    | some n, some (units, rest) => some (.code n :: units, rest)
    | _, _ => none
  | '\\' :: e :: rest =>
    match simpleEscape? e, string? rest with
    | some c, some (units, rest) => some (.char c :: units, rest)
    | _, _ => none
  | c :: rest =>
    if c.toNat < 0x20 ∨ c = '\\' then none
    else match string? rest with
      | some (units, rest) => some (.char c :: units, rest)
      | none => none

/-! ## Numbers -/

/-- Reads at least one digit. -/
def digits? (s : List Char) : Option (List Char × List Char) :=
  match s.takeWhile Char.isDigit with
  | [] => none
  | digits => some (digits, s.dropWhile Char.isDigit)

/-- Reads the digits before the point: a zero stands alone. -/
def whole? : List Char → Option (List Char × List Char)
  | '0' :: rest => some (['0'], rest)
  | s => digits? s

/-- Reads a point with digits, if there is a point. -/
def fraction? : List Char → Option (List Char × List Char)
  | '.' :: rest => digits? rest
  | s => some ([], s)

/-- Reads the sign and the digits of an exponent. -/
def signedDigits? : List Char → Option ((Bool × List Char) × List Char)
  | '-' :: rest => (digits? rest).map fun (digits, rest) => ((true, digits), rest)
  | '+' :: rest => (digits? rest).map fun (digits, rest) => ((false, digits), rest)
  | s => (digits? s).map fun (digits, rest) => ((false, digits), rest)

/-- Reads an exponent, if there is one. -/
def exponent? (s : List Char) : Option (Option (Bool × List Char) × List Char) :=
  match s with
  | c :: rest =>
    if c = 'e' ∨ c = 'E' then (signedDigits? rest).map fun (exponent, rest) => (some exponent, rest)
    else some (none, s)
  | [] => some (none, [])

/-- Reads a number behind its sign. -/
def unsigned? (negative : Bool) (s : List Char) : Option (Numeral × List Char) := do
  let (whole, s) ← whole? s
  let (fraction, s) ← fraction? s
  let (exponent, s) ← exponent? s
  some (⟨negative, whole, fraction, exponent⟩, s)

/-- Reads a number. -/
def numeral? : List Char → Option (Numeral × List Char)
  | '-' :: rest => unsigned? true rest
  | s => unsigned? false s

/-! ## Documents -/

mutual

/-- Reads a value. The first argument bounds the number of calls; two for each character of the
text are enough. -/
def value? : Nat → List Char → Option (Tree × List Char)
  | 0, _ => none
  | fuel + 1, s =>
    match skipSpace s with
    | '"' :: rest => (string? rest).map fun (units, rest) => (.string units, rest)
    | '[' :: rest =>
      match skipSpace rest with
      | ']' :: rest => some (.array [], rest)
      | rest => (items? fuel rest).map fun (items, rest) => (.array items, rest)
    | '{' :: rest =>
      match skipSpace rest with
      | '}' :: rest => some (.object [], rest)
      | rest => (members? fuel rest).map fun (members, rest) => (.object members, rest)
    | 'n' :: rest => (after? ['u', 'l', 'l'] rest).map fun rest => (.null, rest)
    | 't' :: rest => (after? ['r', 'u', 'e'] rest).map fun rest => (.bool true, rest)
    | 'f' :: rest => (after? ['a', 'l', 's', 'e'] rest).map fun rest => (.bool false, rest)
    | rest => (numeral? rest).map fun (n, rest) => (.number n, rest)

/-- Reads the items of an array from the first, or from the one behind a comma, to the bracket that
closes it. -/
def items? : Nat → List Char → Option (List Tree × List Char)
  | 0, _ => none
  | fuel + 1, s =>
    match value? fuel s with
    | none => none
    | some (item, rest) =>
      match skipSpace rest with
      | ',' :: rest => (items? fuel rest).map fun (items, rest) => (item :: items, rest)
      | ']' :: rest => some ([item], rest)
      | _ => none

/-- Reads the members of an object from the first, or from the one behind a comma, to the brace that
closes it. -/
def members? : Nat → List Char → Option (List (List StringUnit × Tree) × List Char)
  | 0, _ => none
  | fuel + 1, s =>
    match skipSpace s with
    | '"' :: rest =>
      match string? rest with
      | none => none
      | some (name, rest) =>
        match skipSpace rest with
        | ':' :: rest =>
          match value? fuel rest with
          | none => none
          | some (value, rest) =>
            match skipSpace rest with
            | ',' :: rest =>
              (members? fuel rest).map fun (members, rest) => ((name, value) :: members, rest)
            | '}' :: rest => some ([(name, value)], rest)
            | _ => none
        | _ => none
    | _ => none

end

/-- The document that the whole text spells. -/
def Tree.ofText? (s : List Char) : Option Tree :=
  match value? (2 * s.length + 1) s with
  | some (tree, rest) => if skipSpace rest = [] then some tree else none
  | none => none

end Phrasebook.Json
