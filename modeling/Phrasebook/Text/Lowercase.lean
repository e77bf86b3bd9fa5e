import Phrasebook.Text.CaseTable
import Phrasebook.Text.Category

/-!
# Lowercasing

Full lowercasing of a text: every letter becomes its lowercase, the dotted capital I becomes two
characters, and a capital sigma becomes the final form at the end of a word. Whether a sigma ends a
word hangs on the letters around it, so `lowercaseFrom` carries what has been passed over.
-/

set_option autoImplicit false

namespace Phrasebook.Text

/-- A lowercase, uppercase or titlecase letter. -/
def isCased (c : Char) : Bool := inRanges casedRanges c.toNat

/-- A character that is passed over when the neighbours of a letter are looked at. -/
def isCaseIgnorable (c : Char) : Bool :=
  isNonspacingMark c || inRanges caseIgnorableRanges c.toNat

/-- The one-to-one lowercase of a character, itself when it has none. -/
def simpleLowercase (c : Char) : Char :=
  match imageIn? lowercaseRanges c.toNat with
  | some n => Char.ofNat n
  | none => c

/-- The lowercase of a character by itself: the dotted capital I keeps its dot as a combining
mark. -/
def lowercaseChar (c : Char) : List Char :=
  if c = 'İ' then ['i', '\u0307'] else [simpleLowercase c]

/-- The nearest character that case does not ignore is a letter with case. -/
def facesCased (s : List Char) : Bool :=
  match s.dropWhile isCaseIgnorable with
  | [] => false
  | c :: _ => isCased c

/-- Lowercases a text that stands behind the characters `before`, nearest first. A capital sigma
ends a word when a letter with case comes before it and none after it. -/
def lowercaseFrom (before : List Char) : List Char → List Char
  | [] => []
  | c :: after =>
    (if c = 'Σ' then [if facesCased before && !facesCased after then 'ς' else 'σ']
      else lowercaseChar c) ++ lowercaseFrom (c :: before) after

/-- The text in lowercase. -/
def lowercase (s : List Char) : List Char := lowercaseFrom [] s

/-- The empty text is in lowercase. -/
@[simp] theorem lowercase_nil : lowercase [] = [] := rfl

end Phrasebook.Text
