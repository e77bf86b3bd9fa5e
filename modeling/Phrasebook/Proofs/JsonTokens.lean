import Mathlib.Data.List.TakeWhile
import Phrasebook.Proofs.JsonText

/-!
# The tokens of JSON

White space, strings and numbers of RFC 8259 as relations between a token and its texts, without a
reader, and the readers against them. What a reader takes off the front of a text is a text of what
it gives (`string?_taken`, `numeral?_taken`), and it takes a text off the front of whatever may
follow it (`string?_takes`, `numeral?_takes`). The end of a number is not marked, so what follows
must not go on with it (`EndsNumber`).
-/

set_option autoImplicit false

namespace Phrasebook.Json

/-! ## Texts of the tokens -/

/-- White space, or nothing. -/
def Gap (s : List Char) : Prop := ∀ c ∈ s, isSpace c = true

/-- At least one digit. -/
def Digits (s : List Char) : Prop := s ≠ [] ∧ ∀ c ∈ s, c.isDigit = true

/-- The digits before the point: a zero stands alone. -/
def WholeText (s : List Char) : Prop := s = ['0'] ∨ Digits s ∧ s.head? ≠ some '0'

/-- The fraction of a number with its point. -/
inductive FractionText : List Char → List Char → Prop
  | none : FractionText [] []
  | some {digits : List Char} (h : Digits digits) : FractionText digits ('.' :: digits)

/-- The sign of an exponent, `true` for minus. -/
inductive SignText : Bool → List Char → Prop
  | none : SignText false []
  | plus : SignText false ['+']
  | minus : SignText true ['-']

/-- The exponent of a number with its letter. -/
inductive ExponentText : Option (Bool × List Char) → List Char → Prop
  | none : ExponentText none []
  | some {letter : Char} {negative : Bool} {sign digits : List Char}
      (hletter : letter = 'e' ∨ letter = 'E') (hsign : SignText negative sign)
      (hdigits : Digits digits) :
      ExponentText (some (negative, digits)) (letter :: (sign ++ digits))

/-- The texts of a number. -/
inductive NumeralText : Numeral → List Char → Prop
  | mk {negative : Bool} {whole fraction front back : List Char}
      {exponent : Option (Bool × List Char)} (hwhole : WholeText whole)
      (hfraction : FractionText fraction front) (hexponent : ExponentText exponent back) :
      NumeralText ⟨negative, whole, fraction, exponent⟩
        ((if negative then ['-'] else []) ++ (whole ++ (front ++ back)))

/-- The texts of the pieces of a string, without the quotes. -/
inductive UnitsText : List StringUnit → List Char → Prop
  | nil : UnitsText [] []
  | plain {c : Char} {units : List StringUnit} {s : List Char} (hcontrol : 0x20 ≤ c.toNat)
      (hquote : c ≠ '"') (hescape : c ≠ '\\') (h : UnitsText units s) :
      UnitsText (.char c :: units) (c :: s)
  | escape {e c : Char} {units : List StringUnit} {s : List Char}
      (he : simpleEscape? e = some c) (h : UnitsText units s) :
      UnitsText (.char c :: units) ('\\' :: e :: s)
  | code {a b c d : Char} {n : Nat} {units : List StringUnit} {s : List Char}
      (hn : hex4? a b c d = some n) (h : UnitsText units s) :
      UnitsText (.code n :: units) ('\\' :: 'u' :: a :: b :: c :: d :: s)

/-! ## White space -/

/-- What is passed over is white space. -/
theorem exists_gap (s : List Char) : ∃ gap, Gap gap ∧ s = gap ++ skipSpace s :=
  ⟨s.takeWhile isSpace, fun _ h => List.mem_takeWhile_imp h,
    List.takeWhile_append_dropWhile.symm⟩

/-- White space is passed over. -/
theorem skipSpace_gap {gap : List Char} (h : Gap gap) (s : List Char) :
    skipSpace (gap ++ s) = skipSpace s :=
  List.dropWhile_append_of_pos h

/-- Behind the white space there is no more of it. -/
theorem skipSpace_skipSpace (s : List Char) : skipSpace (skipSpace s) = skipSpace s := by
  obtain ⟨gap, hgap, hs⟩ := exists_gap s
  nth_rewrite 2 [hs]
  exact (skipSpace_gap hgap _).symm

/-! ## Words and strings -/

/-- What is behind a word is what follows it. -/
theorem after?_eq_some_iff {word s rest : List Char} :
    after? word s = some rest ↔ s = word ++ rest := by
  induction word generalizing s with
  | nil => simp [after?, eq_comm]
  | cons w word ih =>
    cases s with
    | nil => simp [after?]
    | cons c s =>
      rw [after?]
      by_cases hc : w = c
      · simp [hc, ih]
      · simp [hc, Ne.symm hc]

/-- What is read as a string is a text of it up to the quote. -/
theorem string?_taken {s rest : List Char} {units : List StringUnit}
    (h : string? s = some (units, rest)) :
    ∃ text, s = text ++ '"' :: rest ∧ UnitsText units text := by
  fun_induction string? s generalizing units with
  | case2 =>
    cases h
    exact ⟨[], rfl, .nil⟩
  | case3 a b c d s n read behind hs hn ih =>
    cases h
    obtain ⟨text, rfl, htext⟩ := ih hs
    exact ⟨_, rfl, .code hn htext⟩
  | case5 e s _ c read behind hs he ih =>
    cases h
    obtain ⟨text, rfl, htext⟩ := ih hs
    exact ⟨_, rfl, .escape he htext⟩
  | case8 c s hquote _ _ hplain read behind hs ih =>
    cases h
    obtain ⟨text, rfl, htext⟩ := ih hs
    rw [not_or, Nat.not_lt] at hplain
    exact ⟨_, rfl, .plain hplain.1 hquote hplain.2 htext⟩
  | _ => cases h

/-- A text of a string is read up to the quote. -/
theorem string?_takes {units : List StringUnit} {text : List Char} (h : UnitsText units text)
    (rest : List Char) : string? (text ++ '"' :: rest) = some (units, rest) := by
  induction h with
  | nil => rfl
  | @plain c units s hcontrol hquote hescape _ ih =>
    rw [List.cons_append, string?]
    · rw [if_neg (by simp [hescape]; omega), ih]
    · exact hquote
    · intro a b d e rest hc
      exact absurd hc hescape
    · intro e rest hc
      exact absurd hc hescape
  | @escape e c units s he _ ih =>
    rw [List.cons_append, List.cons_append, string?]
    · simp only [he, ih]
    · rintro a b d f rest rfl
      cases he
  | code hn _ ih =>
    simp only [List.cons_append, string?, hn, ih]

/-! ## Numbers -/

/-- No digit stands in front. -/
def NoDigit (s : List Char) : Prop := ∀ c, s.head? = some c → c.isDigit = false

/-- Digits are read as far as they go. -/
theorem digits?_eq_some_iff {s digits rest : List Char} :
    digits? s = some (digits, rest) ↔ s = digits ++ rest ∧ Digits digits ∧ NoDigit rest := by
  have hread : digits? s = if s.takeWhile Char.isDigit = [] then none
      else some (s.takeWhile Char.isDigit, s.dropWhile Char.isDigit) := by
    unfold digits?
    split <;> simp_all
  rw [hread]
  constructor
  · intro h
    split at h
    · cases h
    · next hne =>
      cases h
      refine ⟨List.takeWhile_append_dropWhile.symm, ⟨hne, fun _ => List.mem_takeWhile_imp⟩, ?_⟩
      intro c hc
      have hstop := List.head?_dropWhile_not Char.isDigit s
      rw [hc] at hstop
      simpa using hstop
  · rintro ⟨rfl, ⟨hne, hdigits⟩, hrest⟩
    have hnone : rest.takeWhile Char.isDigit = [] ∧ rest.dropWhile Char.isDigit = rest := by
      cases rest with
      | nil => exact ⟨rfl, rfl⟩
      | cons c rest => simp [hrest c rfl]
    rw [List.takeWhile_append_of_pos hdigits, List.dropWhile_append_of_pos hdigits, hnone.1,
      hnone.2, List.append_nil, if_neg hne]

/-- What is read as the whole part is a text of it. -/
theorem whole?_taken {s whole rest : List Char} (h : whole? s = some (whole, rest)) :
    s = whole ++ rest ∧ WholeText whole := by
  unfold whole? at h
  split at h
  · cases h
    exact ⟨rfl, Or.inl rfl⟩
  · next hzero =>
    obtain ⟨rfl, hdigits, -⟩ := digits?_eq_some_iff.1 h
    refine ⟨rfl, Or.inr ⟨hdigits, ?_⟩⟩
    intro hhead
    obtain ⟨tail, rfl⟩ := List.head?_eq_some_iff.1 hhead
    exact hzero _ rfl

/-- A text of the whole part is read when no digit follows. -/
theorem whole?_takes {whole rest : List Char} (h : WholeText whole) (hrest : NoDigit rest) :
    whole? (whole ++ rest) = some (whole, rest) := by
  rcases h with rfl | ⟨hdigits, hzero⟩
  · rfl
  · rw [whole?]
    · exact digits?_eq_some_iff.2 ⟨rfl, hdigits, hrest⟩
    · intro tail htail
      obtain ⟨c, cs, rfl⟩ := List.exists_cons_of_ne_nil hdigits.1
      exact hzero (congrArg List.head? htail)

/-- What is read as the fraction is a text of it. -/
theorem fraction?_taken {s fraction rest : List Char} (h : fraction? s = some (fraction, rest)) :
    ∃ front, s = front ++ rest ∧ FractionText fraction front := by
  unfold fraction? at h
  split at h
  · obtain ⟨rfl, hdigits, -⟩ := digits?_eq_some_iff.1 h
    exact ⟨_, rfl, .some hdigits⟩
  · cases h
    exact ⟨[], rfl, .none⟩

/-- A text of the fraction is read when neither a digit nor a point follows. -/
theorem fraction?_takes {fraction front rest : List Char} (h : FractionText fraction front)
    (hrest : NoDigit rest) (hpoint : rest.head? ≠ some '.') :
    fraction? (front ++ rest) = some (fraction, rest) := by
  cases h with
  | none =>
    rw [List.nil_append, fraction?]
    rintro tail rfl
    exact hpoint rfl
  | some hdigits => exact digits?_eq_some_iff.2 ⟨rfl, hdigits, hrest⟩

/-- What is read as digits behind a sign is a text of both. -/
theorem signedDigits?_taken {s digits rest : List Char} {negative : Bool}
    (h : signedDigits? s = some ((negative, digits), rest)) :
    ∃ sign, s = sign ++ (digits ++ rest) ∧ SignText negative sign ∧ Digits digits := by
  unfold signedDigits? at h
  split at h <;> obtain ⟨⟨found, behind⟩, hread, heq⟩ := Option.map_eq_some_iff.1 h <;>
    cases heq <;> obtain ⟨rfl, hdigits, -⟩ := digits?_eq_some_iff.1 hread
  · exact ⟨_, rfl, .minus, hdigits⟩
  · exact ⟨_, rfl, .plus, hdigits⟩
  · exact ⟨_, rfl, .none, hdigits⟩

/-- A sign and digits are read when no digit follows. -/
theorem signedDigits?_takes {sign digits rest : List Char} {negative : Bool}
    (hsign : SignText negative sign) (hdigits : Digits digits) (hrest : NoDigit rest) :
    signedDigits? (sign ++ (digits ++ rest)) = some ((negative, digits), rest) := by
  have hread : digits? (digits ++ rest) = some (digits, rest) :=
    digits?_eq_some_iff.2 ⟨rfl, hdigits, hrest⟩
  cases hsign with
  | none =>
    have hhead : ∀ c tail, digits ++ rest = c :: tail → c.isDigit = true := by
      intro c tail heq
      obtain ⟨d, ds, rfl⟩ := List.exists_cons_of_ne_nil hdigits.1
      obtain ⟨rfl, -⟩ := List.cons.inj heq
      exact hdigits.2 d List.mem_cons_self
    rw [List.nil_append, signedDigits?]
    · rw [hread]
      rfl
    · intro tail heq
      exact absurd (hhead _ _ heq) (by decide)
    · intro tail heq
      exact absurd (hhead _ _ heq) (by decide)
  | plus =>
    show (digits? (digits ++ rest)).map _ = _
    rw [hread]
    rfl
  | minus =>
    show (digits? (digits ++ rest)).map _ = _
    rw [hread]
    rfl

/-- What is read as the exponent is a text of it. -/
theorem exponent?_taken {s rest : List Char} {exponent : Option (Bool × List Char)}
    (h : exponent? s = some (exponent, rest)) :
    ∃ back, s = back ++ rest ∧ ExponentText exponent back := by
  unfold exponent? at h
  split at h
  · next letter s =>
    split at h
    · next hletter =>
      obtain ⟨⟨⟨negative, digits⟩, behind⟩, hread, heq⟩ := Option.map_eq_some_iff.1 h
      cases heq
      obtain ⟨sign, rfl, hsign, hdigits⟩ := signedDigits?_taken hread
      exact ⟨_, by simp, .some hletter hsign hdigits⟩
    · cases h
      exact ⟨[], rfl, .none⟩
  · cases h
    exact ⟨[], rfl, .none⟩

/-- No character with which a number could go on stands in front. -/
def EndsNumber (s : List Char) : Prop :=
  ∀ c, s.head? = some c → c.isDigit = false ∧ c ≠ '.' ∧ c ≠ 'e' ∧ c ≠ 'E'

/-- A text of the exponent is read when nothing follows that would carry the number on. -/
theorem exponent?_takes {exponent : Option (Bool × List Char)} {back rest : List Char}
    (h : ExponentText exponent back) (hrest : EndsNumber rest) :
    exponent? (back ++ rest) = some (exponent, rest) := by
  cases h with
  | none =>
    cases rest with
    | nil => rfl
    | cons c rest =>
      obtain ⟨-, -, he, hE⟩ := hrest c rfl
      rw [List.nil_append, exponent?, if_neg (by simp [he, hE])]
  | some hletter hsign hdigits =>
    rw [List.cons_append, List.append_assoc, exponent?, if_pos hletter,
      signedDigits?_takes hsign hdigits fun c hc => (hrest c hc).1]
    rfl

/-- What is read behind the sign is, with the sign, a text of the number. -/
theorem unsigned?_taken {negative : Bool} {s rest : List Char} {n : Numeral}
    (h : unsigned? negative s = some (n, rest)) :
    ∃ text, s = text ++ rest ∧ NumeralText n ((if negative then ['-'] else []) ++ text) := by
  simp only [unsigned?, Option.bind_eq_bind, Option.bind_eq_some_iff] at h
  obtain ⟨⟨whole, s₁⟩, hwhole, ⟨fraction, s₂⟩, hfraction, ⟨exponent, s₃⟩, hexponent, heq⟩ := h
  cases heq
  obtain ⟨rfl, hwholeText⟩ := whole?_taken hwhole
  obtain ⟨front, rfl, hfront⟩ := fraction?_taken hfraction
  obtain ⟨back, rfl, hback⟩ := exponent?_taken hexponent
  exact ⟨_, by simp, .mk hwholeText hfront hback⟩

/-- What is read as a number is a text of it. -/
theorem numeral?_taken {s rest : List Char} {n : Numeral} (h : numeral? s = some (n, rest)) :
    ∃ text, s = text ++ rest ∧ NumeralText n text := by
  unfold numeral? at h
  split at h
  · obtain ⟨text, rfl, htext⟩ := unsigned?_taken h
    exact ⟨_, rfl, htext⟩
  · obtain ⟨text, rfl, htext⟩ := unsigned?_taken h
    exact ⟨_, rfl, htext⟩

/-- What stands behind the whole part is no digit, if the number ends behind it all. -/
theorem endsNumber_back {exponent : Option (Bool × List Char)} {back rest : List Char}
    (h : ExponentText exponent back) (hrest : EndsNumber rest) :
    NoDigit (back ++ rest) ∧ (back ++ rest).head? ≠ some '.' := by
  cases h with
  | none => exact ⟨fun c hc => (hrest c hc).1, fun hc => (hrest _ hc).2.1 rfl⟩
  | some hletter hsign hdigits =>
    rcases hletter with rfl | rfl
    · exact ⟨fun c hc => by cases hc; rfl, by simp⟩
    · exact ⟨fun c hc => by cases hc; rfl, by simp⟩

/-- A fraction does not start with a digit, nor does what follows if it is missing. -/
theorem noDigit_front {fraction front rest : List Char} (h : FractionText fraction front)
    (hrest : NoDigit rest) : NoDigit (front ++ rest) := by
  cases h with
  | none => exact hrest
  | some hdigits => exact fun c hc => by cases hc; rfl

/-- The whole part starts with a digit. -/
theorem exists_digit {whole : List Char} (h : WholeText whole) :
    ∃ c rest, whole = c :: rest ∧ c.isDigit = true := by
  rcases h with rfl | ⟨⟨hne, hdigits⟩, -⟩
  · exact ⟨'0', [], rfl, rfl⟩
  · obtain ⟨c, rest, rfl⟩ := List.exists_cons_of_ne_nil hne
    exact ⟨c, rest, rfl, hdigits c List.mem_cons_self⟩

/-- A text of a number is read when nothing follows that would carry it on. -/
theorem numeral?_takes {n : Numeral} {text rest : List Char} (h : NumeralText n text)
    (hrest : EndsNumber rest) : numeral? (text ++ rest) = some (n, rest) := by
  obtain @⟨negative, whole, fraction, front, back, exponent, hwhole, hfraction, hexponent⟩ := h
  obtain ⟨hdigit, hpoint⟩ := endsNumber_back hexponent hrest
  have hread : unsigned? negative (whole ++ (front ++ (back ++ rest)))
      = some (⟨negative, whole, fraction, exponent⟩, rest) := by
    simp only [unsigned?, whole?_takes hwhole (noDigit_front hfraction hdigit),
      fraction?_takes hfraction hdigit hpoint, exponent?_takes hexponent hrest, Option.bind_eq_bind,
      Option.bind_some]
  rw [List.append_assoc, List.append_assoc, List.append_assoc]
  cases negative with
  | true => exact hread
  | false =>
    show numeral? (whole ++ (front ++ (back ++ rest))) = _
    rw [numeral?]
    · exact hread
    · intro tail heq
      obtain ⟨c, cs, rfl, hc⟩ := exists_digit hwhole
      obtain ⟨rfl, -⟩ := List.cons.inj heq
      exact absurd hc (by decide)

/-- A number starts with a minus or a digit. -/
theorem NumeralText.exists_cons {n : Numeral} {text : List Char} (h : NumeralText n text) :
    ∃ c rest, text = c :: rest ∧ (c = '-' ∨ c.isDigit = true) := by
  obtain @⟨negative, whole, fraction, front, back, exponent, hwhole, -, -⟩ := h
  cases negative with
  | true => exact ⟨_, _, rfl, Or.inl rfl⟩
  | false =>
    obtain ⟨c, cs, rfl, hc⟩ := exists_digit hwhole
    exact ⟨c, _, rfl, Or.inr hc⟩

/-- A number does not start with white space. -/
theorem isSpace_of_numeral {c : Char} (h : c = '-' ∨ c.isDigit = true) : isSpace c = false := by
  rw [Bool.eq_false_iff]
  intro hspace
  simp only [isSpace, Bool.or_eq_true, beq_iff_eq] at hspace
  rcases hspace with ((rfl | rfl) | rfl) | rfl <;> exact absurd h (by decide)

end Phrasebook.Json
