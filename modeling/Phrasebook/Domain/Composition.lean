import Phrasebook.Domain.Composites
import Phrasebook.Domain.MarkPlaces
import Phrasebook.Domain.Syllable
import Phrasebook.Text.Ranges

/-!
# Composed text

A character with marks can be written in several ways: with composites or without them, and with
marks of different places in either order. `composed` gives one way for all of them: composites are
taken apart, marks are put into the order of their places, and every mark that has a composite with
the character in front is composed with it. Putting marks in order loses none (`inOrder_perm`).
-/

set_option autoImplicit false

namespace Phrasebook.Domain

/-! ## Composites -/

/-- The composite of a character and a mark behind it. -/
def composite? (base mark : Char) : Option Char :=
  match Syllable.ofParts? base.toNat mark.toNat with
  | some syllable => some (Char.ofNat syllable)
  | none =>
    (composites.find? (·.1 == mark.toNat)).bind fun (_, pairs) =>
      (pairs.find? (·.1 == base.toNat)).map fun (_, whole) => Char.ofNat whole

/-- The character and the mark that make up a composite. -/
def parts? (c : Char) : Option (Char × Char) :=
  match Syllable.parts? c.toNat with
  | some (front, back) => some (Char.ofNat front, Char.ofNat back)
  | none =>
    composites.findSome? fun (mark, pairs) =>
      (pairs.find? (·.2 == c.toNat)).map fun (base, _) => (Char.ofNat base, Char.ofNat mark)

/-- A character without so many of the marks that it is composed with, and those marks. -/
def takenApart : Nat → Char → List Char
  | 0, c => [c]
  | marks + 1, c =>
    match parts? c with
    | some (base, mark) => takenApart marks base ++ [mark]
    | none => [c]

/-- The most marks that a composite has. -/
def mostMarks : Nat := 3

/-! ## The order of marks -/

/-- The place of a mark. Characters that are no marks, and marks that keep their place in the text,
have place zero. -/
def markPlace (c : Char) : Nat :=
  match markPlaces.find? fun (_, ranges) => Text.inRanges ranges c.toNat with
  | some (place, _) => place
  | none => 0

/-- Puts a character in front of a text, behind the marks that go before it. -/
def putInOrder (c : Char) : List Char → List Char
  | [] => [c]
  | d :: rest =>
    if 0 < markPlace d ∧ markPlace d < markPlace c then d :: putInOrder c rest else c :: d :: rest

/-- The text with the marks of each character in order. Those of one place stay as they are. -/
def inOrder (s : List Char) : List Char := s.foldr putInOrder []

/-- Putting a mark in its place moves it and changes nothing else. -/
theorem putInOrder_perm (c : Char) (s : List Char) : (putInOrder c s).Perm (c :: s) := by
  induction s with
  | nil => exact .refl _
  | cons d rest ih =>
    simp only [putInOrder]
    split
    · exact (ih.cons d).trans (.swap c d rest)
    · exact .refl _

/-- Putting marks in order neither loses a character nor adds one. -/
theorem inOrder_perm (s : List Char) : (inOrder s).Perm s := by
  induction s with
  | nil => exact .refl _
  | cons c rest ih => exact (putInOrder_perm c _).trans (ih.cons c)

/-! ## Composing -/

/-- Whether a character reaches the one that the marks in between, nearest first, belong to. It does
not reach over a mark of its own place, nor over any mark if it has no place. -/
def reaches (c : Char) (between : List Char) : Bool :=
  between.head?.all fun d => decide (markPlace d < markPlace c)

/-- Composes a character with the marks behind it that reach it, and goes on with the next
character. The marks that stay, nearest first, are in between. -/
def composeFrom (base : Char) (between : List Char) : List Char → List Char
  | [] => base :: between.reverse
  | c :: rest =>
    match if reaches c between then composite? base c else none with
    | some whole => composeFrom whole between rest
    | none =>
      if markPlace c = 0 then base :: between.reverse ++ composeFrom c [] rest
      else composeFrom base (c :: between) rest

/-- The text with its marks composed, as far as they are in order. Marks at the beginning have
nothing to be composed with. -/
def compose (s : List Char) : List Char :=
  match s.dropWhile (markPlace · != 0) with
  | [] => s
  | base :: rest => s.takeWhile (markPlace · != 0) ++ composeFrom base [] rest

/-- The one way to write the text. -/
def composed (s : List Char) : List Char := compose (inOrder (s.flatMap (takenApart mostMarks)))

end Phrasebook.Domain
