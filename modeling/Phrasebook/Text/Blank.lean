/-!
# Blank characters

White space as the Unicode standard has it, and what it means for a text to be blank or trimmed.
`trim` takes the blanks off both ends; `trim_eq_self` says which texts it leaves alone.
-/

set_option autoImplicit false

namespace Phrasebook.Text

/-- The code points with the property White_Space. -/
def isBlank (c : Char) : Bool :=
  let n := c.toNat
  decide (0x09 ≤ n ∧ n ≤ 0x0D) || n == 0x20 || n == 0x85 || n == 0xA0 || n == 0x1680
    || decide (0x2000 ≤ n ∧ n ≤ 0x200A) || n == 0x2028 || n == 0x2029 || n == 0x202F
    || n == 0x205F || n == 0x3000

/-- The text from its first character that is not blank. -/
def trimLeft (s : List Char) : List Char := s.dropWhile isBlank

/-- The text up to its last character that is not blank. -/
def trimRight (s : List Char) : List Char := (s.reverse.dropWhile isBlank).reverse

/-- The text without the blanks at its ends. -/
def trim (s : List Char) : List Char := trimRight (trimLeft s)

/-- A text of nothing but blanks says nothing. -/
def isBlankText (s : String) : Bool := s.toList.all isBlank

/-- A text that neither starts nor ends with a blank. -/
def Trimmed (s : List Char) : Prop :=
  (∀ c, s.head? = some c → isBlank c = false) ∧ ∀ c, s.getLast? = some c → isBlank c = false

/-- A text that does not start with a blank has none to lose there. -/
theorem trimLeft_eq_self {s : List Char} (h : ∀ c, s.head? = some c → isBlank c = false) :
    trimLeft s = s := by
  cases s with
  | nil => rfl
  | cons c r => simp [trimLeft, h c rfl]

/-- A trimmed text is left as it is. -/
theorem trim_eq_self {s : List Char} (h : Trimmed s) : trim s = s := by
  rw [trim, trimLeft_eq_self h.1, trimRight]
  have : s.reverse.dropWhile isBlank = s.reverse :=
    trimLeft_eq_self fun c hc => h.2 c (by rwa [List.head?_reverse] at hc)
  rw [this, List.reverse_reverse]

/-- Without the blanks at its front a text does not start with one. -/
theorem head?_trimLeft {s : List Char} {c : Char} (h : (trimLeft s).head? = some c) :
    isBlank c = false := by
  have := List.head?_dropWhile_not isBlank s
  rw [trimLeft] at h
  rw [h] at this
  simpa using this

/-- Without the blanks at its end a text does not end in one. -/
theorem getLast?_trimRight {s : List Char} {c : Char} (h : (trimRight s).getLast? = some c) :
    isBlank c = false := by
  rw [trimRight, List.getLast?_reverse] at h
  exact head?_trimLeft h

/-- Only an end of the text is cut off on the right. -/
theorem exists_trimRight_append (s : List Char) : ∃ t, trimRight s ++ t = s := by
  refine ⟨(s.reverse.takeWhile isBlank).reverse, ?_⟩
  rw [trimRight, ← List.reverse_append, List.takeWhile_append_dropWhile, List.reverse_reverse]

/-- Trimming leaves no blank at either end. -/
theorem trimmed_trim (s : List Char) : Trimmed (trim s) := by
  refine ⟨fun c hc => ?_, fun c hc => getLast?_trimRight hc⟩
  obtain ⟨t, ht⟩ := exists_trimRight_append (trimLeft s)
  refine head?_trimLeft (s := s) ?_
  rw [← ht, List.head?_append, show (trimRight (trimLeft s)).head? = some c from hc]
  rfl

end Phrasebook.Text
