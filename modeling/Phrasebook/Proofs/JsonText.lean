import Mathlib.Data.List.Basic
import Phrasebook.Json.Compact
import Phrasebook.Json.Reader

/-!
# Reading back compact text

What is written compactly is read back. A written character is read as one piece (`unitOf`), and the
pieces of a string have its text. Of values it is said how each is spelled (`Spells`): read from the
front of any text, with two calls for each of its own characters, it gives its tree and leaves the
rest. An array is spelled by the trees of its items and an object by those of its members, so the
spelling of a document is put together from below.
-/

set_option autoImplicit false

namespace Phrasebook.Json

/-! ## Strings -/

/-- The piece that a written character is read as. -/
def unitOf (c : Char) : StringUnit :=
  if c.toNat < 0x20 ∧ c ∉ ['\x08', '\x0C', '\n', '\r', '\t'] then .code c.toNat else .char c

/-- The pieces that a written string is read as. -/
def unitsOf (s : String) : List StringUnit := s.toList.map unitOf

/-- The digits of a control character: two zeros, and its two digits in base sixteen. -/
theorem hexPadded_control {n : Nat} (h : n < 0x20) :
    Text.hexPadded 4 n = ['0', '0', Nat.digitChar (n / 16), Nat.digitChar (n % 16)] ∧
      hex4? '0' '0' (Nat.digitChar (n / 16)) (Nat.digitChar (n % 16)) = some n := by
  revert n
  decide

/-- A written character is read as its piece. -/
theorem string?_escapeChar (c : Char) {s rest : List Char} {units : List StringUnit}
    (h : string? s = some (units, rest)) :
    string? (escapeChar c ++ s) = some (unitOf c :: units, rest) := by
  unfold escapeChar
  split_ifs with h₁ h₂ h₃ h₄ h₅ h₆ h₇ h₈
  · subst h₁; simp [string?, simpleEscape?, unitOf, h]
  · subst h₂; simp [string?, simpleEscape?, unitOf, h]
  · subst h₃; simp [string?, simpleEscape?, unitOf, h]
  · subst h₄; simp [string?, simpleEscape?, unitOf, h]
  · subst h₅; simp [string?, simpleEscape?, unitOf, h]
  · subst h₆; simp [string?, simpleEscape?, unitOf, h]
  · subst h₇; simp [string?, simpleEscape?, unitOf, h]
  · obtain ⟨heq, hread⟩ := hexPadded_control h₈
    have hunit : unitOf c = .code c.toNat := by
      rw [unitOf, if_pos ⟨h₈, by simp [h₃, h₄, h₅, h₆, h₇]⟩]
    rw [heq, hunit]
    simp [string?, hread, h]
  · have hunit : unitOf c = .char c := by rw [unitOf, if_neg (fun hc => h₈ hc.1)]
    rw [hunit, List.singleton_append, string?]
    · rw [if_neg (by simp [h₂, h₈]), h]
    · exact h₁
    · intro a b d e rest hc
      exact absurd hc h₂
    · intro e rest hc
      exact absurd hc h₂

/-- A written string is read as the pieces of its characters. -/
theorem string?_write (s : String) (rest : List Char) :
    string? (s.toList.flatMap escapeChar ++ '"' :: rest) = some (unitsOf s, rest) := by
  unfold unitsOf
  induction s.toList with
  | nil => rfl
  | cons c s ih =>
    rw [List.flatMap_cons, List.append_assoc]
    exact string?_escapeChar c ih

/-- A piece that is the number of a character is that character. -/
theorem text?_code {n : Nat} (h : n < 0xD800) (units : List StringUnit) :
    text? (.code n :: units) = (text? units).map (Char.ofNat n :: ·) := by
  have hlead : Text.isLeadSurrogate n = false := by
    simp only [Text.isLeadSurrogate, decide_eq_false_iff_not]
    omega
  have htrail : Text.isTrailSurrogate n = false := by
    simp only [Text.isTrailSurrogate, decide_eq_false_iff_not]
    omega
  rw [text?.eq_def]
  simp only [hlead, htrail, Bool.false_eq_true, if_false]

/-- The pieces of a text give the text back. -/
theorem text?_unitsOf (s : String) : text? (unitsOf s) = some s.toList := by
  unfold unitsOf
  induction s.toList with
  | nil => rfl
  | cons c s ih =>
    rw [List.map_cons, unitOf]
    split
    · next hcontrol =>
      rw [text?_code (by omega), ih, Char.ofNat_toNat]
      rfl
    · rw [text?, ih]
      rfl

/-! ## Readers at tokens -/

/-- A character that is no white space is not passed over. -/
theorem skipSpace_cons {c : Char} (h : isSpace c = false) (s : List Char) :
    skipSpace (c :: s) = c :: s := by
  rw [skipSpace, List.dropWhile_cons_of_neg (by simp [h])]

section Tokens

variable {fuel : Nat} {s rest : List Char}

/-- Behind a quote a value is a string. -/
theorem value?_quote {units : List StringUnit} (h : string? s = some (units, rest)) :
    value? (fuel + 1) ('"' :: s) = some (.string units, rest) := by
  rw [value?, skipSpace_cons rfl]
  simp only [h, Option.map_some]

/-- Behind a bracket that is not closed at once a value is an array. -/
theorem value?_bracket {c : Char} (hspace : isSpace c = false) (hclose : c ≠ ']')
    {items : List Tree} (h : items? fuel (c :: s) = some (items, rest)) :
    value? (fuel + 1) ('[' :: c :: s) = some (.array items, rest) := by
  rw [value?, skipSpace_cons rfl]
  simp only [skipSpace_cons hspace]
  split
  · next heq => exact absurd (List.cons.inj heq).1 hclose
  · rw [h]
    rfl

/-- Behind a brace and a quote a value is an object. -/
theorem value?_brace {members : List (List StringUnit × Tree)}
    (h : members? fuel ('"' :: s) = some (members, rest)) :
    value? (fuel + 1) ('{' :: '"' :: s) = some (.object members, rest) := by
  rw [value?, skipSpace_cons rfl]
  simp only [skipSpace_cons (c := '"') rfl]
  split
  · next heq => exact absurd (List.cons.inj heq).1 (by decide)
  · rw [h]
    rfl

/-- Behind a comma there are further items. -/
theorem items?_comma {item : Tree} {items : List Tree} {t : List Char}
    (hvalue : value? fuel s = some (item, ',' :: t)) (h : items? fuel t = some (items, rest)) :
    items? (fuel + 1) s = some (item :: items, rest) := by
  rw [items?]
  simp only [hvalue, skipSpace_cons (c := ',') rfl, h, Option.map_some]

/-- A closing bracket ends the items. -/
theorem items?_close {item : Tree} (hvalue : value? fuel s = some (item, ']' :: rest)) :
    items? (fuel + 1) s = some ([item], rest) := by
  rw [items?]
  simp only [hvalue, skipSpace_cons (c := ']') rfl]

/-- Behind a comma there are further members. -/
theorem members?_comma {name : List StringUnit} {value : Tree}
    {members : List (List StringUnit × Tree)} {t u : List Char}
    (hname : string? s = some (name, ':' :: t)) (hvalue : value? fuel t = some (value, ',' :: u))
    (h : members? fuel u = some (members, rest)) :
    members? (fuel + 1) ('"' :: s) = some ((name, value) :: members, rest) := by
  rw [members?, skipSpace_cons rfl]
  simp only [hname, hvalue, skipSpace_cons (c := ':') rfl, skipSpace_cons (c := ',') rfl, h,
    Option.map_some]

/-- A closing brace ends the members. -/
theorem members?_close {name : List StringUnit} {value : Tree} {t : List Char}
    (hname : string? s = some (name, ':' :: t))
    (hvalue : value? fuel t = some (value, '}' :: rest)) :
    members? (fuel + 1) ('"' :: s) = some ([(name, value)], rest) := by
  rw [members?, skipSpace_cons rfl]
  simp only [hname, hvalue, skipSpace_cons (c := ':') rfl, skipSpace_cons (c := '}') rfl]

end Tokens

/-! ## Values -/

/-- The value is read as the tree. -/
structure Spells (v : Value) (tree : Tree) : Prop where
  /-- What is written is no white space and does not close an array. -/
  starts : ∃ c rest, v.write = c :: rest ∧ isSpace c = false ∧ c ≠ ']'
  reads : ∀ (fuel : Nat) (rest : List Char), 2 * v.write.length ≤ fuel →
    value? fuel (v.write ++ rest) = some (tree, rest)

/-- The whole of a compact text is read. -/
theorem Spells.ofText? {v : Value} {tree : Tree} (h : Spells v tree) :
    Tree.ofText? v.compact.toList = some tree := by
  have hread := h.reads (2 * v.write.length + 1) [] (by omega)
  rw [List.append_nil] at hread
  rw [Value.compact, String.toList_ofList, Tree.ofText?, hread]
  rfl

/-- A first call is left over for the first character. -/
theorem exists_fuel (n fuel : Nat) (h : 2 * (n + 1) ≤ fuel) :
    ∃ left, fuel = left + 1 ∧ 2 * n + 1 ≤ left :=
  ⟨fuel - 1, by omega, by omega⟩

/-- Null is read back. -/
theorem spells_null : Spells .null .null where
  starts := ⟨'n', _, rfl, rfl, by decide⟩
  reads := by
    intro fuel rest hfuel
    obtain ⟨left, rfl, -⟩ := exists_fuel 3 _ hfuel
    rfl

/-- A string is read back as its pieces. -/
theorem spells_string (s : String) : Spells (.string s) (.string (unitsOf s)) where
  starts := ⟨'"', _, rfl, rfl, by decide⟩
  reads := by
    intro fuel rest hfuel
    have hwrite : (Value.string s).write = '"' :: (s.toList.flatMap escapeChar ++ ['"']) := rfl
    rw [hwrite] at hfuel ⊢
    obtain ⟨left, rfl, -⟩ := exists_fuel _ _ hfuel
    rw [List.cons_append, List.append_assoc]
    exact value?_quote (string?_write s rest)

section Items

variable {α : Type} {f : α → Value} {g : α → Tree}

/-- The items from one of them to the bracket. -/
theorem items?_write (x : α) (xs : List α) (h : ∀ y ∈ x :: xs, Spells (f y) (g y)) {fuel : Nat}
    (rest : List Char)
    (hfuel : 2 * ((f x).write.length + (Value.writeItems (xs.map f)).length) ≤ fuel) :
    items? fuel ((f x).write ++ (Value.writeItems (xs.map f) ++ rest))
      = some ((x :: xs).map g, rest) := by
  have hx := h x List.mem_cons_self
  induction xs generalizing x fuel with
  | nil =>
    have hwrite : Value.writeItems (List.map f []) = [']'] := rfl
    rw [hwrite] at hfuel ⊢
    obtain ⟨left, rfl, hleft⟩ := exists_fuel _ _ hfuel
    exact items?_close (hx.reads left _ (by omega))
  | cons y ys ih =>
    have hwrite : Value.writeItems ((y :: ys).map f)
        = ',' :: ((f y).write ++ Value.writeItems (ys.map f)) := rfl
    rw [hwrite, List.length_cons, List.length_append, ← Nat.add_assoc] at hfuel
    obtain ⟨left, rfl, hleft⟩ := exists_fuel _ _ hfuel
    rw [hwrite, List.cons_append, List.append_assoc]
    refine items?_comma (hx.reads left _ (by omega)) ?_
    exact ih y (fun z hz => h z (List.mem_cons_of_mem _ hz)) (by omega)
      (h y (List.mem_cons_of_mem _ List.mem_cons_self))

/-- An array is read back when its items are. -/
theorem spells_array {xs : List α} (h : ∀ x ∈ xs, Spells (f x) (g x)) :
    Spells (.array (xs.map f)) (.array (xs.map g)) := by
  cases xs with
  | nil =>
    refine ⟨⟨'[', _, rfl, rfl, by decide⟩, fun fuel rest hfuel => ?_⟩
    obtain ⟨left, rfl, -⟩ := exists_fuel 1 _ hfuel
    rfl
  | cons x xs =>
    refine ⟨⟨'[', _, rfl, rfl, by decide⟩, fun fuel rest hfuel => ?_⟩
    have hwrite : (Value.array ((x :: xs).map f)).write
        = '[' :: ((f x).write ++ Value.writeItems (xs.map f)) := rfl
    rw [hwrite, List.length_cons, List.length_append] at hfuel
    obtain ⟨left, rfl, hleft⟩ := exists_fuel _ _ hfuel
    have hitems := items?_write x xs h rest (by omega : _ ≤ left)
    obtain ⟨c, tail, hstart, hspace, hclose⟩ := (h x List.mem_cons_self).starts
    rw [hwrite, List.cons_append, List.append_assoc]
    rw [hstart, List.cons_append] at hitems ⊢
    exact value?_bracket hspace hclose hitems

end Items

section Members

variable {α : Type} {name : α → String} {f : α → Value} {g : α → Tree}

/-- The members from one of them, behind the quote of its name, to the brace. -/
theorem members?_write (x : α) (xs : List α) (h : ∀ y ∈ x :: xs, Spells (f y) (g y)) {fuel : Nat}
    (rest : List Char)
    (hfuel : 2 * ((f x).write.length
      + (Value.writeMembers (xs.map fun x => (name x, f x))).length) ≤ fuel) :
    members? fuel ('"' :: ((name x).toList.flatMap escapeChar ++ '"' :: ':' :: ((f x).write
        ++ (Value.writeMembers (xs.map fun x => (name x, f x)) ++ rest))))
      = some ((x :: xs).map fun x => (unitsOf (name x), g x), rest) := by
  have hx := h x List.mem_cons_self
  induction xs generalizing x fuel with
  | nil =>
    have hwrite : Value.writeMembers (List.map (fun x => (name x, f x)) []) = ['}'] := rfl
    rw [hwrite] at hfuel ⊢
    obtain ⟨left, rfl, hleft⟩ := exists_fuel _ _ hfuel
    exact members?_close (string?_write _ _) (hx.reads left _ (by omega))
  | cons y ys ih =>
    have hwrite : ∀ rest, Value.writeMembers ((y :: ys).map fun x => (name x, f x)) ++ rest
        = ',' :: '"' :: ((name y).toList.flatMap escapeChar ++ '"' :: ':' :: ((f y).write
          ++ (Value.writeMembers (ys.map fun x => (name x, f x)) ++ rest))) := by
      intro rest
      simp [Value.writeMembers, writeString]
    have hlength := congrArg List.length (hwrite [])
    simp only [List.append_nil, List.length_cons, List.length_append] at hlength
    obtain ⟨left, rfl, hleft⟩ := exists_fuel ((f x).write.length + ((f y).write.length
      + (Value.writeMembers (ys.map fun x => (name x, f x))).length)) fuel (by omega)
    rw [hwrite]
    refine members?_comma (string?_write _ _) (hx.reads left _ (by omega)) ?_
    exact ih y (fun z hz => h z (List.mem_cons_of_mem _ hz)) (by omega)
      (h y (List.mem_cons_of_mem _ List.mem_cons_self))

/-- An object is read back when the values of its members are. -/
theorem spells_object {xs : List α} (h : ∀ x ∈ xs, Spells (f x) (g x)) :
    Spells (.object (xs.map fun x => (name x, f x)))
      (.object (xs.map fun x => (unitsOf (name x), g x))) := by
  cases xs with
  | nil =>
    refine ⟨⟨'{', _, rfl, rfl, by decide⟩, fun fuel rest hfuel => ?_⟩
    obtain ⟨left, rfl, -⟩ := exists_fuel 1 _ hfuel
    rfl
  | cons x xs =>
    refine ⟨⟨'{', _, rfl, rfl, by decide⟩, fun fuel rest hfuel => ?_⟩
    have hwrite : ∀ rest, (Value.object ((x :: xs).map fun x => (name x, f x))).write ++ rest
        = '{' :: '"' :: ((name x).toList.flatMap escapeChar ++ '"' :: ':' :: ((f x).write
          ++ (Value.writeMembers (xs.map fun x => (name x, f x)) ++ rest))) := by
      intro rest
      simp [Value.write, writeString]
    have hlength := congrArg List.length (hwrite [])
    simp only [List.append_nil, List.length_cons, List.length_append] at hlength
    obtain ⟨left, rfl, hleft⟩ := exists_fuel ((f x).write.length
      + (Value.writeMembers (xs.map fun x => (name x, f x))).length) fuel (by omega)
    rw [hwrite]
    exact value?_brace (members?_write x xs h rest (by omega))

end Members

end Phrasebook.Json
