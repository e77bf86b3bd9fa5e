/-!
# Ranges of code points

How the tables of characters are written. A range is the pair of its bounds, and a correspondence
takes the code points of one range to those of another.
-/

set_option autoImplicit false

namespace Phrasebook.Text

/-- Whether the number lies between the bounds of one of the ranges. -/
def inRanges (ranges : List (Nat × Nat)) (n : Nat) : Bool :=
  ranges.any fun r => decide (r.1 ≤ n ∧ n ≤ r.2)

/-- Every `step`-th code point from `first` to `last` has an image, that of `first` being `target`
and the others lying as far behind it as they lie behind `first`. -/
structure Correspondence where
  first : Nat
  last : Nat
  step : Nat
  target : Nat
  deriving Repr, DecidableEq

/-- The image of a code point, when it has one. -/
def Correspondence.image? (r : Correspondence) (n : Nat) : Option Nat :=
  if r.first ≤ n ∧ n ≤ r.last ∧ (n - r.first) % r.step = 0 then some (r.target + (n - r.first))
  else none

/-- The image of a code point in a table of correspondences. -/
def imageIn? (table : List Correspondence) (n : Nat) : Option Nat :=
  table.findSome? (·.image? n)

end Phrasebook.Text
