/-!
# Syntax trees of JSON documents

A document as it is spelled: strings keep their numeric escapes, numbers their digits, and objects
every member in order, repeated names included. What the spelling means is decided later, by
`Json.Value.ofTree?` and by the readers of configurations and dictionaries, since they differ in
what they let pass.
-/

set_option autoImplicit false

namespace Phrasebook.Json

/-- A piece of a string: a character, or the number of a four-digit escape, which may be half of a
character. -/
inductive StringUnit where
  | char (c : Char)
  | code (n : Nat)
  deriving DecidableEq, Repr

/-- The digits of a number. The fraction is empty when there is no point; the exponent has a sign,
`true` for minus. -/
structure Numeral where
  negative : Bool
  whole : List Char
  fraction : List Char
  exponent : Option (Bool × List Char)
  deriving DecidableEq, Repr

/-- A document. -/
inductive Tree where
  | null
  | bool (b : Bool)
  | number (n : Numeral)
  | string (units : List StringUnit)
  | array (items : List Tree)
  | object (members : List (List StringUnit × Tree))

namespace Tree

mutual

/-- How many arrays and objects lie around the innermost place of the document. -/
def depth : Tree → Nat
  | .array items => depthOfItems items + 1
  | .object members => depthOfMembers members + 1
  | _ => 0

/-- The greatest depth among the items of an array. -/
def depthOfItems : List Tree → Nat
  | [] => 0
  | item :: rest => max (depth item) (depthOfItems rest)

/-- The greatest depth among the members of an object. -/
def depthOfMembers : List (List StringUnit × Tree) → Nat
  | [] => 0
  | (_, value) :: rest => max (depth value) (depthOfMembers rest)

end

end Tree

end Phrasebook.Json
