import Phrasebook.Text.Hexadecimal
import Phrasebook.Text.Split

/-!
# Numeric hosts

A host can be given by its number in place of a name: in one to four parts with dots between them
(`dotted?`), or in eight groups of hexadecimal digits with colons between them (`grouped?`). Either
is written in one way, whichever way it was given.
-/

set_option autoImplicit false

namespace Phrasebook.Address

/-- The value of some digits, if they all are digits of the base. -/
def digits? (base : Nat) (s : List Char) : Option Nat :=
  s.foldlM (fun n c => do
    let d ← Text.hexDigit? c
    if d < base then some (n * base + d) else none) 0

/-! ## Parts with dots -/

/-- The value of a part. Digits behind `0x` are hexadecimal and those behind another zero octal. -/
def part? : List Char → Option Nat
  | [] => none
  | '0' :: 'x' :: rest => digits? 16 rest
  | '0' :: c :: rest => digits? 8 (c :: rest)
  | s => digits? 10 s

/-- The parts of a host. A dot at the end separates nothing. -/
def dottedParts (host : List Char) : List (List Char) :=
  match (Text.split '.' host).reverse with
  | [] :: part :: rest => (part :: rest).reverse
  | parts => parts.reverse

/-- Whether the last part is a number or looks like one, so that the host can be no name. -/
def endsInNumber (host : List Char) : Bool :=
  match (dottedParts host).getLast? with
  | some last => !last.isEmpty && last.all Char.isDigit || (part? last).isSome
  | none => false

/-- The number of 32 bits that the parts make up: the last part fills what the others, of eight bits
each, leave. -/
def dotted? (host : List Char) : Option Nat :=
  match (dottedParts host).mapM part? with
  | some numbers =>
    match numbers.reverse with
    | last :: others =>
      let room := Nat.pow 256 (4 - others.length)
      if others.length ≤ 3 ∧ last < room ∧ others.all (· < 256) then
        some (others.foldr (fun n number => number * 256 + n) 0 * room + last)
      else none
    | [] => none
  | none => none

/-- A number of 32 bits in four parts. -/
def writeDotted (number : Nat) : List Char :=
  ['.'].intercalate <| [16777216, 65536, 256, 1].map fun place =>
    Nat.toDigits 10 (number / place % 256)

/-! ## Groups with colons -/

/-- A group of sixteen bits. -/
def group? (s : List Char) : Option Nat :=
  if 1 ≤ s.length ∧ s.length ≤ 4 then digits? 16 s else none

/-- One of four numbers of eight bits, in plain decimal digits. -/
def quarter? (s : List Char) : Option Nat :=
  match digits? 10 s with
  | some n => if n < 256 ∧ s = Nat.toDigits 10 n then some n else none
  | none => none

/-- The two groups that four numbers of eight bits stand for. -/
def quad? (s : List Char) : Option (List Nat) :=
  match (Text.split '.' s).mapM quarter? with
  | some [a, b, c, d] => some [a * 256 + b, c * 256 + d]
  | _ => none

/-- The groups in a list, of which the last may be a quad. -/
def groups? : List (List Char) → Option (List Nat)
  | [] => some []
  | [s] =>
    match group? s with
    | some group => some [group]
    | none => quad? s
  | s :: rest =>
    match group? s, groups? rest with
    | some group, some groups => some (group :: groups)
    | _, _ => none

/-- What stands before the first double colon and behind it, if there is one. -/
def cutAtGap? : List Char → Option (List Char × List Char)
  | ':' :: ':' :: rest => some ([], rest)
  | c :: rest => (cutAtGap? rest).map fun (before, behind) => (c :: before, behind)
  | [] => none

/-- What stands between the colons of a text. -/
def betweenColons (s : List Char) : List (List Char) := if s.isEmpty then [] else Text.split ':' s

/-- The eight groups of a number of 128 bits. A double colon stands for at least one group of
zeros. -/
def grouped? (s : List Char) : Option (List Nat) :=
  match cutAtGap? s with
  | none => (groups? (betweenColons s)).filter (·.length == 8)
  | some (before, behind) =>
    match (betweenColons before).mapM group?, groups? (betweenColons behind) with
    | some front, some back =>
      if front.length + back.length ≤ 7 then
        some (front ++ List.replicate (8 - front.length - back.length) 0 ++ back)
      else none
    | _, _ => none

/-- The number of zeros at the beginning. -/
def leadingZeros (groups : List Nat) : Nat := (groups.takeWhile (· == 0)).length

/-- The length of the longest run of zeros. -/
def longestZeros : List Nat → Nat
  | [] => 0
  | group :: rest => max (leadingZeros (group :: rest)) (longestZeros rest)

/-- The groups in front of the first run of so many zeros, and those behind it. -/
def cutAtZeros (zeros : Nat) : List Nat → List Nat × List Nat
  | [] => ([], [])
  | group :: rest =>
    if leadingZeros (group :: rest) = zeros then ([], (group :: rest).drop zeros)
    else
      let (front, back) := cutAtZeros zeros rest
      (group :: front, back)

/-- Groups with colons between them, without zeros in front of their digits. -/
def writeGroups (groups : List Nat) : List Char :=
  [':'].intercalate (groups.map Text.hexDigits)

/-- Groups with a double colon for the first of the longest runs of zeros, if it is longer than
one. -/
def writeGrouped (groups : List Nat) : List Char :=
  let zeros := longestZeros groups
  if zeros ≤ 1 then writeGroups groups
  else
    let (front, back) := cutAtZeros zeros groups
    writeGroups front ++ [':', ':'] ++ writeGroups back

end Phrasebook.Address
