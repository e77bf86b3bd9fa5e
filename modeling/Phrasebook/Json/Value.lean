import Phrasebook.Json.Reader
import Phrasebook.KeyMap
import Phrasebook.Number.Binary64
import Phrasebook.Text.Utf16

/-!
# JSON values

What a document means: strings are text, numbers are integers of 64 bits or doubles, and an object
has one value per name, the last that it spells. `Value.ofTree?` finds the value of a syntax tree;
it fails on half characters, on numbers beyond the largest double and on too much nesting.
`Value.ofText?` reads a text in one go.
-/

set_option autoImplicit false

namespace Phrasebook.Json

/-! ## Strings -/

/-- The text of a string: two escaped surrogates make up one character, and one alone is none. -/
def text? : List StringUnit → Option (List Char)
  | [] => some []
  | .char c :: rest => (text? rest).map (c :: ·)
  | .code n :: rest =>
    if Text.isLeadSurrogate n then
      match rest with
      | .code m :: rest =>
        if Text.isTrailSurrogate m then
          (text? rest).map (Char.ofNat (Text.joinSurrogates n m) :: ·)
        else none
      | _ => none
    else if Text.isTrailSurrogate n then none
    else (text? rest).map (Char.ofNat n :: ·)

/-! ## Numbers -/

/-- A number: an integer that fits 64 bits, or a double. -/
inductive Number where
  | integer (n : Int)
  | double (negative : Bool) (magnitude : Binary64)
  deriving DecidableEq, Repr

/-- The value of a decimal digit. -/
def digitValue (c : Char) : Nat := c.toNat - '0'.toNat

/-- The number that some digits spell. -/
def natOfDigits (digits : List Char) : Nat :=
  digits.foldl (fun n c => n * 10 + digitValue c) 0

/-- The first natural number that does not fit 64 bits. -/
def wordLimit : Nat := 0x10000000000000000

/-- Appends digits to a number while it stays within 64 bits, and counts those that are left. -/
def appendDigits (n : Nat) : List Char → Nat × Nat
  | [] => (n, 0)
  | c :: rest =>
    let next := n * 10 + digitValue c
    if next < wordLimit then appendDigits next rest else (n, rest.length + 1)

namespace Numeral

/-- The exponent that is written, zero if there is none. -/
def power (n : Numeral) : Int :=
  match n.exponent with
  | none => 0
  | some (negative, digits) => if negative then -(natOfDigits digits : Int) else natOfDigits digits

/-- Digits and a power of ten. Only as many digits are kept as fit 64 bits: of the others, those
before the point raise the power and those behind it are dropped. -/
def decimal (n : Numeral) : Nat × Int :=
  let (whole, dropped) := appendDigits 0 n.whole
  let (digits, ignored) := appendDigits whole n.fraction
  (digits, (dropped : Int) - ((n.fraction.length - ignored : Nat) : Int) + n.power)

/-- The double that the numeral is read as, if it is not beyond the largest. -/
def double? (n : Numeral) : Option Number :=
  (Binary64.ofDecimal? n.decimal.1 n.decimal.2).map (.double n.negative ·)

/-- The value of a numeral: an integer if it has neither point nor exponent and fits, except that
minus zero is a double. -/
def number? (n : Numeral) : Option Number :=
  match n.fraction, n.exponent with
  | [], none =>
    let magnitude := natOfDigits n.whole
    if n.negative then
      if 0 < magnitude ∧ 2 * magnitude ≤ wordLimit then some (.integer (-magnitude)) else n.double?
    else if magnitude < wordLimit then some (.integer magnitude)
    else n.double?
  | _, _ => n.double?

end Numeral

/-! ## Values -/

/-- A value. The members of an object stand in ascending order of their names. -/
inductive Value where
  | null
  | bool (b : Bool)
  | number (n : Number)
  | string (s : String)
  | array (items : List Value)
  | object (members : List (String × Value))
  deriving Repr, Inhabited

namespace Value

mutual

/-- The value of a tree, whatever its depth. -/
def resolve? : Tree → Option Value
  | .null => some .null
  | .bool b => some (.bool b)
  | .number n => n.number?.map .number
  | .string units => (text? units).map fun s => .string (String.ofList s)
  | .array items => (resolveItems? items).map .array
  | .object members =>
    (resolveMembers? members).map fun members => .object (KeyMap.ofList members).entries

/-- The values of the items of an array. -/
def resolveItems? : List Tree → Option (List Value)
  | [] => some []
  | item :: rest =>
    match resolve? item, resolveItems? rest with
    | some item, some rest => some (item :: rest)
    | _, _ => none

/-- The names and values of the members of an object, as they are spelled. -/
def resolveMembers? : List (List StringUnit × Tree) → Option (List (String × Value))
  | [] => some []
  | (name, value) :: rest =>
    match text? name, resolve? value, resolveMembers? rest with
    | some name, some value, some rest => some ((String.ofList name, value) :: rest)
    | _, _, _ => none

end

/-- How deep arrays and objects may be nested. -/
def maxDepth : Nat := 127

/-- The value of a tree. -/
def ofTree? (tree : Tree) : Option Value :=
  if tree.depth ≤ maxDepth then resolve? tree else none

/-- The value that a text spells. -/
def ofText? (s : String) : Option Value := (Tree.ofText? s.toList).bind ofTree?

/-- The members of an object. -/
def members? : Value → Option (KeyMap Value)
  | .object members => some (KeyMap.ofList members)
  | _ => none

/-- The text of a string. -/
def string? : Value → Option String
  | .string s => some s
  | _ => none

/-- The texts of an array of nothing but strings. -/
def strings? : Value → Option (List String)
  | .array items => items.mapM string?
  | _ => none

end Value

end Phrasebook.Json
