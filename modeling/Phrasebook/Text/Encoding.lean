import Phrasebook.Text.Utf16

/-!
# Texts in announced encodings

The encoding of a document is announced beside it, by the charset that its type names, or in it, by
a byte order mark; where there are both the mark counts (`decodeAnnounced`). The encodings of
Unicode are read here. Which charset a type names, which encoding a charset is, and how bytes are
read in the encodings that are older than Unicode is a parameter (`Charsets`).
-/

set_option autoImplicit false

namespace Phrasebook.Text

/-- An encoding of documents. -/
inductive Encoding where
  | utf8
  | utf16 (bigEndian : Bool)
  /-- An encoding that is older than Unicode, with its reading of bytes. -/
  | older (read : List UInt8 → List Char)

/-- The text of bytes in the encoding. What is no text becomes replacement characters. -/
def Encoding.decode : Encoding → List UInt8 → List Char
  | .utf8 => Utf8.decodeLossy
  | .utf16 bigEndian => decodeUtf16 bigEndian
  | .older read => read

/-- What is known of charsets. -/
structure Charsets where
  /-- The label of the charset that the type of a document names. -/
  label? : String → Option String
  /-- The encoding with that label. -/
  encoding? : String → Option Encoding

/-- The encoding of documents of a type. Without a type, without a charset and with a label that is
not known it is UTF-8. -/
def Charsets.encodingOf (charsets : Charsets) (type : Option String) : Encoding :=
  ((type.bind charsets.label?).bind charsets.encoding?).getD .utf8

/-- The text of bytes that are said to be in the encoding. A byte order mark at their front says
otherwise, and is no part of the text. -/
def decodeAnnounced (encoding : Encoding) : List UInt8 → List Char
  | 0xEF :: 0xBB :: 0xBF :: rest => Utf8.decodeLossy rest
  | 0xFF :: 0xFE :: rest => decodeUtf16 false rest
  | 0xFE :: 0xFF :: rest => decodeUtf16 true rest
  | bytes => encoding.decode bytes

end Phrasebook.Text
