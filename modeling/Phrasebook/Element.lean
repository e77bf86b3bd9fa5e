/-!
# Template elements

A template is a list of elements, and an element is a text that may start with marks: `#` says that
the rest names a placeholder, `$` that no space follows, `~` that whatever follows is content. The
first two count once each, in either order; a second one is content. `Element.read` tells the marks
from the content.
-/

set_option autoImplicit false

namespace Phrasebook

/-- The marks that may stand before the content of an element. -/
inductive Mark where
  /-- The content is the name of a placeholder. -/
  | placeholder
  /-- No space follows. -/
  | tight
  /-- The content starts here, whatever it starts with. -/
  | literal
  deriving DecidableEq, Repr

namespace Mark

/-- The character of a mark. -/
def char : Mark → Char
  | .placeholder => '#'
  | .tight => '$'
  | .literal => '~'

/-- The mark that a character is. -/
def ofChar? (c : Char) : Option Mark :=
  if c = '#' then some .placeholder
  else if c = '$' then some .tight
  else if c = '~' then some .literal
  else none

/-- A mark is found again by its character. -/
@[simp] theorem ofChar?_char (m : Mark) : ofChar? m.char = some m := by
  cases m <;> decide

/-- A character is a mark exactly when it is the character of that mark. -/
theorem ofChar?_eq_some_iff {c : Char} {m : Mark} : ofChar? c = some m ↔ c = m.char := by
  constructor
  · intro h
    simp only [ofChar?] at h
    split at h
    · next hc => rw [← Option.some.inj h, hc]; rfl
    · split at h
      · next hc => rw [← Option.some.inj h, hc]; rfl
      · split at h
        · next hc => rw [← Option.some.inj h, hc]; rfl
        · exact absurd h (by simp)
  · rintro rfl
    exact ofChar?_char m

end Mark

/-- What the marks of an element say about it. -/
structure Kind where
  /-- The content names a placeholder. -/
  dynamic : Bool
  /-- A space follows. -/
  spaced : Bool
  deriving DecidableEq, Repr

/-- An element without marks: text with a space behind it. -/
def Kind.plain : Kind := ⟨false, true⟩

namespace Element

/-- Takes the marks off the front of an element of which marks saying `kind` have been read. -/
def stripMarks (kind : Kind) : List Char → Kind × List Char
  | [] => (kind, [])
  | c :: rest =>
    match Mark.ofChar? c with
    | some .placeholder =>
      if kind.dynamic then (kind, c :: rest) else stripMarks { kind with dynamic := true } rest
    | some .tight =>
      if kind.spaced then stripMarks { kind with spaced := false } rest else (kind, c :: rest)
    | some .literal => (kind, rest)
    | none => (kind, c :: rest)

/-- An element told apart. It is malformed if it has marks and no content; its marks then count for
nothing, and it stands for no text at all. -/
structure Reading where
  kind : Kind
  content : String
  malformed : Bool
  deriving DecidableEq, Repr

/-- Tells the marks of an element from its content. -/
def read (element : String) : Reading :=
  match element.toList with
  | [] => ⟨.plain, "", false⟩
  | chars =>
    match stripMarks .plain chars with
    | (_, []) => ⟨⟨false, false⟩, "", true⟩
    | (kind, content) => ⟨kind, String.ofList content, false⟩

end Element

end Phrasebook
