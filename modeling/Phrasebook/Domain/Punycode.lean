import Phrasebook.Text.Split

/-!
# Punycode

The encoding of a text in the letters, digits and hyphens that names have always had. In front, up
to the last hyphen, stand the ASCII characters of the text; behind it every other character is put
in by a number, which says how far its code point and its place lie behind those of the one put in
before. The digits of the numbers come lowest first, and where a number ends hangs on a bias that
follows the sizes of the numbers.
-/

set_option autoImplicit false

namespace Phrasebook.Domain.Punycode

/-! ## Decoding -/

/-- The value of a digit: the letters come before the figures. -/
def digit? (c : Char) : Option Nat :=
  if 'a' ≤ c ∧ c ≤ 'z' then some (c.toNat - 'a'.toNat)
  else if '0' ≤ c ∧ c ≤ '9' then some (c.toNat - '0'.toNat + 26)
  else none

/-- The least digit that does not end a number, in the place counted in steps of 36. -/
def threshold (bias place : Nat) : Nat := min 26 (max 1 (place - bias))

/-- How often a number is scaled down before the bias is taken from it, 36 each time, and what is
left of it. -/
def scale (delta steps : Nat) : Nat × Nat :=
  if delta ≤ 455 then (steps, delta) else scale (delta / 35) (steps + 36)
termination_by delta
decreasing_by omega

/-- The bias behind a number that put in a character, when there are `length` of them. -/
def adapt (delta length : Nat) (isFirst : Bool) : Nat :=
  let delta := if isFirst then delta / 700 else delta / 2
  let (steps, delta) := scale (delta + delta / length) 0
  steps + 36 * delta / (delta + 38)

/-- A number that is being read: the sum of its digits so far, and the weight and the place of the
next one. -/
structure Pending where
  sum : Nat
  weight : Nat
  place : Nat
  deriving Repr, DecidableEq

/-- A number of which nothing has been read. -/
def Pending.fresh : Pending := ⟨0, 1, 36⟩

/-- Where the reading stands: the text so far, the code point of the last character put in, the
place behind it, and the bias. -/
structure Progress where
  text : List Char
  code : Nat
  index : Nat
  bias : Nat
  deriving Repr, DecidableEq

/-- Puts in the character that a number says, if there is such a character. -/
def Progress.putIn? (p : Progress) (number : Nat) : Option Progress :=
  let length := p.text.length + 1
  let code := p.code + (p.index + number) / length
  let index := (p.index + number) % length
  if code.isValidChar then
    some ⟨p.text.insertIdx index (Char.ofNat code), code, index + 1,
      adapt number length (p.index == 0)⟩
  else none

/-- The weights of digits have 32 bits. -/
def weightBound : Nat := 0x100000000

/-- Reads the numbers that are left. The text may not end within one. -/
def decodeFrom (p : Progress) (pending : Pending) : List Char → Option (List Char)
  | [] => if pending = .fresh then some p.text else none
  | c :: rest =>
    match digit? c with
    | none => none
    | some d =>
      let sum := pending.sum + d * pending.weight
      let least := threshold p.bias pending.place
      if d < least then
        match p.putIn? sum with
        | some p => decodeFrom p .fresh rest
        | none => none
      else if pending.weight * (36 - least) < weightBound then
        decodeFrom p ⟨sum, pending.weight * (36 - least), pending.place + 36⟩ rest
      else none

/-- What stands before the last hyphen, and what stands behind it. Without a hyphen, or with one at
the very beginning, nothing stands before. -/
def splitBase (s : List Char) : List Char × List Char :=
  match Text.cut? '-' s.reverse with
  | some (behind, c :: before) => ((c :: before).reverse, behind.reverse)
  | _ => ([], s)

/-- The text that an encoding stands for. -/
def decode? (s : List Char) : Option (List Char) :=
  let (base, numbers) := splitBase s
  if base.all (·.toNat < 0x80) then decodeFrom ⟨base, 0x80, 0, 72⟩ .fresh numbers else none

/-! ## Encoding -/

/-- A digit: the letters come before the figures. -/
def digit (d : Nat) : Char :=
  if d < 26 then Char.ofNat ('a'.toNat + d) else Char.ofNat ('0'.toNat + (d - 26))

/-- No digit has the threshold zero. -/
theorem threshold_pos (bias place : Nat) : 0 < threshold bias place := by
  simp only [threshold]; omega

/-- The digits of a number from a place on, the lowest first. -/
def digits (bias place number : Nat) : List Char :=
  let least := threshold bias place
  if number < least then [digit number]
  else digit (least + (number - least) % (36 - least))
    :: digits bias (place + 36) ((number - least) / (36 - least))
termination_by number
decreasing_by
  have hpos := threshold_pos bias place
  exact Nat.lt_of_le_of_lt (Nat.div_le_self _ _) (by omega)

/-- A character that is put in: its code point, and the place where it stands among those that are
there already. -/
structure Insertion where
  code : Nat
  index : Nat
  deriving Repr, DecidableEq

/-- The characters outside ASCII of a text in the order in which they are put in: the lower code
point first, and of one code point the one in front. -/
def insertions (text : List Char) : List Insertion :=
  let places := text.zipIdx.filter (0x80 ≤ ·.1.toNat)
  let inOrder := places.mergeSort fun (c, _) (d, _) => decide (c.toNat ≤ d.toNat)
  inOrder.map fun (c, place) =>
    ⟨c.toNat, ((text.take place).filter (·.toNat ≤ c.toNat)).length⟩

/-- The number that puts a character in. -/
def Progress.numberFor (p : Progress) (i : Insertion) : Nat :=
  (i.code - p.code) * (p.text.length + 1) + i.index - p.index

/-- The numbers that put characters in, written one behind the other. -/
def encodeFrom (p : Progress) : List Insertion → List Char
  | [] => []
  | i :: rest =>
    digits p.bias 36 (p.numberFor i) ++
      match p.putIn? (p.numberFor i) with
      | some p => encodeFrom p rest
      | none => []

/-- The encoding of a text. -/
def encode (text : List Char) : List Char :=
  let base := text.filter (·.toNat < 0x80)
  (if base.isEmpty then [] else base ++ ['-'])
    ++ encodeFrom ⟨base, 0x80, 0, 72⟩ (insertions text)

end Phrasebook.Domain.Punycode
