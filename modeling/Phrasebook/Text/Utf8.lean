/-!
# UTF-8

Bytes as text and text as bytes. The reading goes byte by byte: `start` says what a first byte
begins, `Pending.step` what the next byte makes of a character that has begun. The strict reading
`decode` ends at the first fault and says where it is; the forgiving one `decodeLossy` puts one
replacement character in the place of each fault and goes on with the byte that showed it.
`encode` writes text as bytes.
-/

set_option autoImplicit false

namespace Phrasebook.Text.Utf8

/-! ## Writing -/

/-- The bytes of a code point. -/
def encodeNat (n : Nat) : List UInt8 :=
  if n < 0x80 then [UInt8.ofNat n]
  else if n < 0x800 then [UInt8.ofNat (0xC0 + n / 64), UInt8.ofNat (0x80 + n % 64)]
  else if n < 0x10000 then
    [UInt8.ofNat (0xE0 + n / 4096), UInt8.ofNat (0x80 + n / 64 % 64), UInt8.ofNat (0x80 + n % 64)]
  else
    [UInt8.ofNat (0xF0 + n / 262144), UInt8.ofNat (0x80 + n / 4096 % 64),
      UInt8.ofNat (0x80 + n / 64 % 64), UInt8.ofNat (0x80 + n % 64)]

/-- The bytes of a text. -/
def encode (s : List Char) : List UInt8 := s.flatMap fun c => encodeNat c.toNat

/-! ## Reading a byte -/

/-- A character of which `used` bytes have been read, making up `value` so far. `wanted` more are
missing, of which the next lies from `low` to `high`. -/
structure Pending where
  used : Nat
  value : Nat
  wanted : Nat
  low : Nat
  high : Nat
  deriving DecidableEq, Repr

/-- What a byte does to the reading. -/
inductive Step where
  /-- It completes a character. -/
  | char (c : Char)
  /-- It begins or continues one. -/
  | more (p : Pending)
  /-- No character has it in this place. -/
  | invalid
  deriving DecidableEq, Repr

/-- A byte where a character has to begin. The bounds of the second byte keep out surrogates,
numbers above the last code point, and spellings that are longer than they need to be. -/
def start (byte : UInt8) : Step :=
  let b := byte.toNat
  if b < 0x80 then .char (Char.ofNat b)
  else if 0xC2 ≤ b ∧ b ≤ 0xDF then .more ⟨1, b - 0xC0, 1, 0x80, 0xBF⟩
  else if b = 0xE0 then .more ⟨1, b - 0xE0, 2, 0xA0, 0xBF⟩
  else if b = 0xED then .more ⟨1, b - 0xE0, 2, 0x80, 0x9F⟩
  else if 0xE1 ≤ b ∧ b ≤ 0xEF then .more ⟨1, b - 0xE0, 2, 0x80, 0xBF⟩
  else if b = 0xF0 then .more ⟨1, b - 0xF0, 3, 0x90, 0xBF⟩
  else if 0xF1 ≤ b ∧ b ≤ 0xF3 then .more ⟨1, b - 0xF0, 3, 0x80, 0xBF⟩
  else if b = 0xF4 then .more ⟨1, b - 0xF0, 3, 0x80, 0x8F⟩
  else .invalid

/-- A byte where a character has to go on. -/
def Pending.step (p : Pending) (byte : UInt8) : Step :=
  let b := byte.toNat
  if p.low ≤ b ∧ b ≤ p.high then
    let value := p.value * 64 + (b - 0x80)
    if p.wanted = 1 then .char (Char.ofNat value)
    else .more ⟨p.used + 1, value, p.wanted - 1, 0x80, 0xBF⟩
  else .invalid

/-! ## Reading a text -/

/-- The first fault of some bytes: how many bytes are at fault, unless the end cuts a character
short, and the number of good bytes before them. -/
structure Fault where
  length? : Option Nat
  index : Nat
  deriving DecidableEq, Repr

/-- What the fault is, in words. -/
def Fault.message (f : Fault) : String :=
  match f.length? with
  | some n => "invalid utf-8 sequence of " ++ toString n ++ " bytes from index " ++ toString f.index
  | none => "incomplete utf-8 byte sequence from index " ++ toString f.index

/-- Reads the bytes that follow `index` good ones and those of the pending character. -/
def decodeFrom (index : Nat) : Option Pending → List UInt8 → Except Fault (List Char)
  | none, [] => .ok []
  | some _, [] => .error ⟨none, index⟩
  | none, b :: rest =>
    match start b with
    | .char c => (decodeFrom (index + 1) none rest).map (c :: ·)
    | .more p => decodeFrom index (some p) rest
    | .invalid => .error ⟨some 1, index⟩
  | some p, b :: rest =>
    match p.step b with
    | .char c => (decodeFrom (index + p.used + 1) none rest).map (c :: ·)
    | .more q => decodeFrom index (some q) rest
    | .invalid => .error ⟨some p.used, index⟩

/-- The text that the bytes spell, or their first fault. -/
def decode (bytes : List UInt8) : Except Fault (List Char) := decodeFrom 0 none bytes

/-- The character that stands for bytes that are no text. -/
def replacement : Char := '\uFFFD'

/-- Reads the bytes that follow those of the pending character, putting a replacement character
for every fault. -/
def decodeLossyFrom : Option Pending → List UInt8 → List Char
  | none, [] => []
  | some _, [] => [replacement]
  | none, b :: rest =>
    match start b with
    | .char c => c :: decodeLossyFrom none rest
    | .more p => decodeLossyFrom (some p) rest
    | .invalid => replacement :: decodeLossyFrom none rest
  | some p, b :: rest =>
    match p.step b with
    | .char c => c :: decodeLossyFrom none rest
    | .more q => decodeLossyFrom (some q) rest
    | .invalid =>
      replacement :: match start b with
        | .char c => c :: decodeLossyFrom none rest
        | .more q => decodeLossyFrom (some q) rest
        | .invalid => replacement :: decodeLossyFrom none rest

/-- The text that the bytes spell, with one replacement character for each fault. -/
def decodeLossy (bytes : List UInt8) : List Char := decodeLossyFrom none bytes

end Phrasebook.Text.Utf8
