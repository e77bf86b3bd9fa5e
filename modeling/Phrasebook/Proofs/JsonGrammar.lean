import Phrasebook.Proofs.JsonTokens

/-!
# The grammar of JSON

Which texts a document of RFC 8259 has, without a reader: `ValueText` gives the texts of a value,
`PaddedText` allows white space around them, and a document is a padded value. The reader takes
exactly these texts (`Tree.ofText?_eq_some_iff`). What it takes off the front of a text is a text of
what it gives (`taken`), and it takes a text off the front of whatever may follow it (`takes`). Both
directions are inductions on the number of calls, with one step for each of the three readers that
call each other.
-/

set_option autoImplicit false

namespace Phrasebook.Json

/-! ## Texts of values -/

/-- The texts of a name in quotes, with white space around it. -/
inductive NameText : List StringUnit → List Char → Prop
  | mk {units : List StringUnit} {before s behind : List Char} (hbefore : Gap before)
      (h : UnitsText units s) (hbehind : Gap behind) :
      NameText units (before ++ '"' :: (s ++ '"' :: behind))

mutual

/-- The texts of a value. -/
inductive ValueText : Tree → List Char → Prop
  | nullWord : ValueText .null ['n', 'u', 'l', 'l']
  | trueWord : ValueText (.bool true) ['t', 'r', 'u', 'e']
  | falseWord : ValueText (.bool false) ['f', 'a', 'l', 's', 'e']
  | number {n : Numeral} {s : List Char} (h : NumeralText n s) : ValueText (.number n) s
  | string {units : List StringUnit} {s : List Char} (h : UnitsText units s) :
      ValueText (.string units) ('"' :: (s ++ ['"']))
  | emptyArray {gap : List Char} (h : Gap gap) : ValueText (.array []) ('[' :: (gap ++ [']']))
  | array {items : List Tree} {s : List Char} (h : ItemsText items s) :
      ValueText (.array items) ('[' :: (s ++ [']']))
  | emptyObject {gap : List Char} (h : Gap gap) : ValueText (.object []) ('{' :: (gap ++ ['}']))
  | object {members : List (List StringUnit × Tree)} {s : List Char} (h : MembersText members s) :
      ValueText (.object members) ('{' :: (s ++ ['}']))

/-- The texts of a value with white space around it. -/
inductive PaddedText : Tree → List Char → Prop
  | mk {tree : Tree} {before s behind : List Char} (hbefore : Gap before) (h : ValueText tree s)
      (hbehind : Gap behind) : PaddedText tree (before ++ (s ++ behind))

/-- The texts of one or more items, with commas between them. -/
inductive ItemsText : List Tree → List Char → Prop
  | one {item : Tree} {s : List Char} (h : PaddedText item s) : ItemsText [item] s
  | more {item : Tree} {items : List Tree} {s t : List Char} (h : PaddedText item s)
      (ht : ItemsText items t) : ItemsText (item :: items) (s ++ ',' :: t)

/-- The texts of one or more members, with commas between them. -/
inductive MembersText : List (List StringUnit × Tree) → List Char → Prop
  | one {name : List StringUnit} {value : Tree} {n s : List Char} (hname : NameText name n)
      (h : PaddedText value s) : MembersText [(name, value)] (n ++ ':' :: s)
  | more {name : List StringUnit} {value : Tree} {members : List (List StringUnit × Tree)}
      {n s t : List Char} (hname : NameText name n) (h : PaddedText value s)
      (ht : MembersText members t) :
      MembersText ((name, value) :: members) (n ++ ':' :: (s ++ ',' :: t))

end

/-! ## What is taken off the front -/

/-- With so many calls, what is read as a value is a text of it behind white space. -/
def ValueTaken (fuel : Nat) : Prop :=
  ∀ s tree rest, value? fuel s = some (tree, rest) →
    ∃ gap text, Gap gap ∧ s = gap ++ (text ++ rest) ∧ ValueText tree text

/-- With so many calls, what is read as items is a text of them up to the bracket. -/
def ItemsTaken (fuel : Nat) : Prop :=
  ∀ s items rest, items? fuel s = some (items, rest) →
    ∃ text, s = text ++ ']' :: rest ∧ ItemsText items text

/-- With so many calls, what is read as members is a text of them up to the brace. -/
def MembersTaken (fuel : Nat) : Prop :=
  ∀ s members rest, members? fuel s = some (members, rest) →
    ∃ text, s = text ++ '}' :: rest ∧ MembersText members text

section Taken

variable {fuel : Nat}

/-- White space in front of what is read belongs to the first item. -/
theorem itemsText_gap {gap s : List Char} {items : List Tree} (hgap : Gap gap)
    (h : ItemsText items s) : ItemsText items (gap ++ s) := by
  have hpadded : ∀ {item t}, PaddedText item t → PaddedText item (gap ++ t) := by
    intro item t h
    obtain @⟨_, before, t, behind, hbefore, hvalue, hbehind⟩ := h
    rw [← List.append_assoc]
    refine .mk ?_ hvalue hbehind
    intro c hc
    exact (List.mem_append.1 hc).elim (hgap c) (hbefore c)
  cases h with
  | one h => exact .one (hpadded h)
  | more h ht =>
    rw [← List.append_assoc]
    exact .more (hpadded h) ht

/-- White space in front of what is read belongs to the first member. -/
theorem membersText_gap {gap s : List Char} {members : List (List StringUnit × Tree)}
    (hgap : Gap gap) (h : MembersText members s) : MembersText members (gap ++ s) := by
  have hname : ∀ {name n}, NameText name n → NameText name (gap ++ n) := by
    intro name n h
    obtain @⟨before, t, behind, hbefore, hunits, hbehind⟩ := h
    rw [← List.append_assoc]
    refine .mk ?_ hunits hbehind
    intro c hc
    exact (List.mem_append.1 hc).elim (hgap c) (hbefore c)
  cases h with
  | one hn h =>
    rw [← List.append_assoc]
    exact .one (hname hn) h
  | more hn h ht =>
    rw [← List.append_assoc]
    exact .more (hname hn) h ht

/-- A value that is read has a text, if items and members with one call less have. -/
theorem valueTaken_succ (hitems : ItemsTaken fuel) (hmembers : MembersTaken fuel) :
    ValueTaken (fuel + 1) := by
  intro s tree rest h
  obtain ⟨gap, hgap, hs⟩ := exists_gap s
  refine ⟨gap, ?_⟩
  suffices htext : ∃ text, skipSpace s = text ++ rest ∧ ValueText tree text by
    obtain ⟨text, hskip, htext⟩ := htext
    exact ⟨text, hgap, hskip ▸ hs, htext⟩
  rw [value?] at h
  split at h
  · next s' hskip =>
    obtain ⟨⟨units, behind⟩, hread, heq⟩ := Option.map_eq_some_iff.1 h
    cases heq
    obtain ⟨text, rfl, htext⟩ := string?_taken hread
    exact ⟨_, by rw [hskip]; simp, .string htext⟩
  · next s' hskip =>
    obtain ⟨inner, hinner, hs'⟩ := exists_gap s'
    split at h
    · next behind hclose =>
      cases h
      exact ⟨_, by rw [hskip, hs', hclose]; simp, .emptyArray hinner⟩
    · obtain ⟨⟨items, behind⟩, hread, heq⟩ := Option.map_eq_some_iff.1 h
      cases heq
      obtain ⟨text, hrest, htext⟩ := hitems _ _ _ hread
      exact ⟨_, by rw [hskip, hs', hrest]; simp, .array (itemsText_gap hinner htext)⟩
  · next s' hskip =>
    obtain ⟨inner, hinner, hs'⟩ := exists_gap s'
    split at h
    · next behind hclose =>
      cases h
      exact ⟨_, by rw [hskip, hs', hclose]; simp, .emptyObject hinner⟩
    · obtain ⟨⟨members, behind⟩, hread, heq⟩ := Option.map_eq_some_iff.1 h
      cases heq
      obtain ⟨text, hrest, htext⟩ := hmembers _ _ _ hread
      exact ⟨_, by rw [hskip, hs', hrest]; simp, .object (membersText_gap hinner htext)⟩
  · next s' hskip =>
    obtain ⟨behind, hread, heq⟩ := Option.map_eq_some_iff.1 h
    cases heq
    exact ⟨_, by rw [hskip, after?_eq_some_iff.1 hread]; rfl, .nullWord⟩
  · next s' hskip =>
    obtain ⟨behind, hread, heq⟩ := Option.map_eq_some_iff.1 h
    cases heq
    exact ⟨_, by rw [hskip, after?_eq_some_iff.1 hread]; rfl, .trueWord⟩
  · next s' hskip =>
    obtain ⟨behind, hread, heq⟩ := Option.map_eq_some_iff.1 h
    cases heq
    exact ⟨_, by rw [hskip, after?_eq_some_iff.1 hread]; rfl, .falseWord⟩
  · obtain ⟨⟨n, behind⟩, hread, heq⟩ := Option.map_eq_some_iff.1 h
    cases heq
    obtain ⟨text, hskip, htext⟩ := numeral?_taken hread
    exact ⟨text, hskip, .number htext⟩

/-- What stands between two tokens is the white space behind one of them. -/
theorem paddedText_of_taken (h : ValueTaken fuel) {s behind : List Char} {tree : Tree}
    (hread : value? fuel s = some (tree, behind)) :
    ∃ text, s = text ++ skipSpace behind ∧ PaddedText tree text := by
  obtain ⟨before, text, hbefore, rfl, htext⟩ := h _ _ _ hread
  obtain ⟨gap, hgap, hbehind⟩ := exists_gap behind
  refine ⟨before ++ (text ++ gap), ?_, .mk hbefore htext hgap⟩
  nth_rewrite 1 [hbehind]
  simp

/-- Items that are read have a text, if a value and items with one call less have. -/
theorem itemsTaken_succ (hvalue : ValueTaken fuel) (hitems : ItemsTaken fuel) :
    ItemsTaken (fuel + 1) := by
  intro s items rest h
  rw [items?] at h
  split at h
  · cases h
  · next item behind hread =>
    obtain ⟨text, rfl, htext⟩ := paddedText_of_taken hvalue hread
    split at h
    · next others hskip =>
      obtain ⟨⟨items, behind⟩, hothers, heq⟩ := Option.map_eq_some_iff.1 h
      cases heq
      obtain ⟨more, rfl, hmore⟩ := hitems _ _ _ hothers
      exact ⟨_, by rw [hskip]; simp, .more htext hmore⟩
    · next hskip =>
      cases h
      exact ⟨_, by rw [hskip], .one htext⟩
    · cases h

/-- Members that are read have a text, if a value and members with one call less have. -/
theorem membersTaken_succ (hvalue : ValueTaken fuel) (hmembers : MembersTaken fuel) :
    MembersTaken (fuel + 1) := by
  intro s members rest h
  obtain ⟨before, hbefore, hs⟩ := exists_gap s
  rw [members?] at h
  split at h
  · next s' hquote =>
    split at h
    · cases h
    · next name named hname =>
      obtain ⟨units, rfl, hunits⟩ := string?_taken hname
      obtain ⟨gap, hgap, hnamed⟩ := exists_gap named
      split at h
      · next s'' hcolon =>
        split at h
        · cases h
        · next value behind hread =>
          obtain ⟨text, rfl, htext⟩ := paddedText_of_taken hvalue hread
          have hfront : s = (before ++ '"' :: (units ++ '"' :: gap))
              ++ ':' :: (text ++ skipSpace behind) := by
            rw [hs, hquote, hnamed, hcolon]
            simp
          split at h
          · next others hskip =>
            obtain ⟨⟨members, behind⟩, hothers, heq⟩ := Option.map_eq_some_iff.1 h
            cases heq
            obtain ⟨more, rfl, hmore⟩ := hmembers _ _ _ hothers
            exact ⟨_, by rw [hfront, hskip]; simp, .more (.mk hbefore hunits hgap) htext hmore⟩
          · next hskip =>
            cases h
            exact ⟨_, by rw [hfront, hskip]; simp, .one (.mk hbefore hunits hgap) htext⟩
          · cases h
      · cases h
  · cases h

/-- The induction is on the number of calls, for the three readers at once. -/
theorem taken (fuel : Nat) : ValueTaken fuel ∧ ItemsTaken fuel ∧ MembersTaken fuel := by
  induction fuel with
  | zero =>
    refine ⟨?_, ?_, ?_⟩ <;> intro s found rest h
    · simp [value?] at h
    · simp [items?] at h
    · simp [members?] at h
  | succ fuel ih =>
    obtain ⟨hvalue, hitems, hmembers⟩ := ih
    exact ⟨valueTaken_succ hitems hmembers, itemsTaken_succ hvalue hitems,
      membersTaken_succ hvalue hmembers⟩

end Taken

/-! ## Texts are taken -/

/-- What may stand behind a value: nothing, white space, or a token that goes on or closes. -/
def Follows (s : List Char) : Prop :=
  ∀ c, s.head? = some c → isSpace c = true ∨ c = ',' ∨ c = ']' ∨ c = '}'

/-- White space may stand before what may follow a value. -/
theorem follows_gap {gap s : List Char} (hgap : Gap gap) (h : Follows s) : Follows (gap ++ s) := by
  cases gap with
  | nil => exact h
  | cons g gap =>
    intro c hc
    rw [List.cons_append, List.head?_cons, Option.some.injEq] at hc
    exact Or.inl (hgap c (hc ▸ List.mem_cons_self))

/-- A comma or a closing bracket may follow a value. -/
theorem follows_token {c : Char} (h : c = ',' ∨ c = ']' ∨ c = '}') (s : List Char) :
    Follows (c :: s) := by
  intro d hd
  cases hd
  exact Or.inr h

/-- What may stand behind a value does not go on with a number. -/
theorem Follows.endsNumber {s : List Char} (h : Follows s) : EndsNumber s := by
  intro c hc
  have hcases : c = ' ' ∨ c = '\t' ∨ c = '\n' ∨ c = '\r' ∨ c = ',' ∨ c = ']' ∨ c = '}' := by
    have := h c hc
    simp only [isSpace, Bool.or_eq_true, beq_iff_eq] at this
    tauto
  rcases hcases with rfl | rfl | rfl | rfl | rfl | rfl | rfl <;> decide

/-- Every value starts with a character that is no white space and does not close an array. -/
theorem ValueText.exists_cons {tree : Tree} {text : List Char} (h : ValueText tree text) :
    ∃ c rest, text = c :: rest ∧ isSpace c = false ∧ c ≠ ']' := by
  cases h with
  | nullWord => exact ⟨_, _, rfl, by decide⟩
  | trueWord => exact ⟨_, _, rfl, by decide⟩
  | falseWord => exact ⟨_, _, rfl, by decide⟩
  | number h =>
    obtain ⟨c, rest, rfl, hc⟩ := h.exists_cons
    refine ⟨c, rest, rfl, isSpace_of_numeral hc, ?_⟩
    rintro rfl
    exact absurd hc (by decide)
  | string h => exact ⟨_, _, rfl, by decide⟩
  | emptyArray h => exact ⟨_, _, rfl, by decide⟩
  | array h => exact ⟨_, _, rfl, by decide⟩
  | emptyObject h => exact ⟨_, _, rfl, by decide⟩
  | object h => exact ⟨_, _, rfl, by decide⟩

/-- Behind the white space of a value its first character stands, which closes no array. -/
theorem PaddedText.skipSpace {tree : Tree} {text : List Char} (h : PaddedText tree text)
    (rest : List Char) : ∃ c s, skipSpace (text ++ rest) = c :: s ∧ c ≠ ']' := by
  obtain @⟨_, before, text, behind, hbefore, hvalue, -⟩ := h
  obtain ⟨c, s, rfl, hspace, hclose⟩ := hvalue.exists_cons
  refine ⟨c, s ++ behind ++ rest, ?_, hclose⟩
  rw [List.append_assoc, skipSpace_gap hbefore, List.cons_append, List.cons_append,
    skipSpace_cons hspace]

/-- Behind the white space of items the first item stands, which closes no array. -/
theorem ItemsText.skipSpace {items : List Tree} {text : List Char} (h : ItemsText items text)
    (rest : List Char) : ∃ c s, skipSpace (text ++ rest) = c :: s ∧ c ≠ ']' := by
  cases h with
  | one h => exact h.skipSpace rest
  | more h _ =>
    rw [List.append_assoc]
    exact h.skipSpace _

/-- Behind the white space of a name its quote stands. -/
theorem NameText.skipSpace {name : List StringUnit} {text : List Char} (h : NameText name text)
    (rest : List Char) : ∃ s, skipSpace (text ++ rest) = '"' :: s := by
  obtain @⟨before, text, behind, hbefore, -, -⟩ := h
  refine ⟨text ++ '"' :: behind ++ rest, ?_⟩
  rw [List.append_assoc, skipSpace_gap hbefore, List.cons_append, skipSpace_cons rfl]

/-- Behind the white space of members the quote of the first name stands. -/
theorem MembersText.skipSpace {members : List (List StringUnit × Tree)} {text : List Char}
    (h : MembersText members text) (rest : List Char) :
    ∃ s, skipSpace (text ++ rest) = '"' :: s := by
  cases h with
  | one h _ =>
    rw [List.append_assoc]
    exact h.skipSpace _
  | more h _ _ =>
    rw [List.append_assoc]
    exact h.skipSpace _

/-- With so many calls, a text of a value is taken off the front of what may follow it. -/
def ValueTakes (fuel : Nat) : Prop :=
  ∀ tree text rest, ValueText tree text → Follows rest → 2 * text.length ≤ fuel + 1 →
    value? fuel (text ++ rest) = some (tree, rest)

/-- With so many calls, a text of items is taken off the front with the bracket behind it. -/
def ItemsTakes (fuel : Nat) : Prop :=
  ∀ items text rest, ItemsText items text → 2 * text.length ≤ fuel →
    items? fuel (text ++ ']' :: rest) = some (items, rest)

/-- With so many calls, a text of members is taken off the front with the brace behind it. -/
def MembersTakes (fuel : Nat) : Prop :=
  ∀ members text rest, MembersText members text → 2 * text.length ≤ fuel →
    members? fuel (text ++ '}' :: rest) = some (members, rest)

section Takes

variable {fuel : Nat}

/-- White space in front of a value is passed over. -/
theorem value?_skipSpace (fuel : Nat) (s : List Char) :
    value? fuel (skipSpace s) = value? fuel s := by
  cases fuel with
  | zero => rfl
  | succ fuel => rw [value?, value?, skipSpace_skipSpace]

/-- White space in front of items is passed over. -/
theorem items?_skipSpace (fuel : Nat) (s : List Char) :
    items? fuel (skipSpace s) = items? fuel s := by
  cases fuel with
  | zero => rfl
  | succ fuel => rw [items?, items?, value?_skipSpace]

/-- White space in front of members is passed over. -/
theorem members?_skipSpace (fuel : Nat) (s : List Char) :
    members? fuel (skipSpace s) = members? fuel s := by
  cases fuel with
  | zero => rfl
  | succ fuel => rw [members?, members?, skipSpace_skipSpace]

/-- A value is read the same behind white space. -/
theorem value?_gap {gap : List Char} (h : Gap gap) (fuel : Nat) (s : List Char) :
    value? fuel (gap ++ s) = value? fuel s := by
  rw [← value?_skipSpace, skipSpace_gap h, value?_skipSpace]

/-- Behind a padded value the reader stands in front of the next token. -/
theorem value?_padded (h : ValueTakes fuel) {tree : Tree} {text : List Char}
    (htext : PaddedText tree text) {c : Char} (hc : c = ',' ∨ c = ']' ∨ c = '}') (rest : List Char)
    (hfuel : 2 * text.length ≤ fuel + 1) :
    ∃ behind, value? fuel (text ++ c :: rest) = some (tree, behind) ∧
      skipSpace behind = c :: rest := by
  obtain @⟨_, before, text, behind, hbefore, hvalue, hbehind⟩ := htext
  have hlength : text.length ≤ (before ++ (text ++ behind)).length := by
    simp only [List.length_append]
    omega
  have hspace : isSpace c = false := by
    rcases hc with rfl | rfl | rfl <;> rfl
  refine ⟨behind ++ c :: rest, ?_, ?_⟩
  · rw [List.append_assoc, value?_gap hbefore, List.append_assoc]
    exact h _ _ _ hvalue (follows_gap hbehind (follows_token hc rest)) (by omega)
  · rw [skipSpace_gap hbehind, skipSpace_cons hspace]

/-- What starts with a digit or a minus is read as a number. -/
theorem value?_numeral {c : Char} {s rest : List Char} {n : Numeral}
    (hc : c = '-' ∨ c.isDigit = true) (h : numeral? (c :: s) = some (n, rest)) :
    value? (fuel + 1) (c :: s) = some (.number n, rest) := by
  have hother : ∀ d, d ∈ ['"', '[', '{', 'n', 't', 'f'] → c ≠ d := by
    rintro d hd rfl
    revert hc hd
    simp only [List.mem_cons, List.not_mem_nil, or_false]
    rintro hc (rfl | rfl | rfl | rfl | rfl | rfl) <;> exact absurd hc (by decide)
  rw [value?, skipSpace_cons (isSpace_of_numeral hc)]
  split
  all_goals first
    | next heq => exact absurd (List.cons.inj heq).1 (hother _ (by decide))
    | rw [h]; rfl

/-- The texts of a value are read, if those of items and members are with one call less. -/
theorem valueTakes_succ (hitems : ItemsTakes fuel) (hmembers : MembersTakes fuel) :
    ValueTakes (fuel + 1) := by
  intro tree text rest h hfollows hfuel
  cases h with
  | nullWord => rfl
  | trueWord => rfl
  | falseWord => rfl
  | @number n text h =>
    have hread := numeral?_takes h hfollows.endsNumber
    obtain ⟨c, s, rfl, hc⟩ := h.exists_cons
    exact value?_numeral hc hread
  | string h =>
    rw [List.cons_append, List.append_assoc]
    exact value?_quote (string?_takes h rest)
  | emptyArray h =>
    rw [List.cons_append, List.append_assoc, value?, skipSpace_cons rfl]
    simp only [skipSpace_gap h, List.cons_append, List.nil_append, skipSpace_cons (c := ']') rfl]
  | @array items text h =>
    have hread := hitems _ _ rest h (by simp at hfuel; omega)
    obtain ⟨c, s, hskip, hclose⟩ := h.skipSpace (']' :: rest)
    rw [← items?_skipSpace, hskip] at hread
    rw [List.cons_append, List.append_assoc, value?, skipSpace_cons rfl]
    simp only [List.singleton_append, hskip]
    split
    · next heq => exact absurd (List.cons.inj heq).1 hclose
    · rw [hread]
      rfl
  | emptyObject h =>
    rw [List.cons_append, List.append_assoc, value?, skipSpace_cons rfl]
    simp only [skipSpace_gap h, List.cons_append, List.nil_append, skipSpace_cons (c := '}') rfl]
  | @object members text h =>
    have hread := hmembers _ _ rest h (by simp at hfuel; omega)
    obtain ⟨s, hskip⟩ := h.skipSpace ('}' :: rest)
    rw [← members?_skipSpace, hskip] at hread
    rw [List.cons_append, List.append_assoc, value?, skipSpace_cons rfl]
    simp only [List.singleton_append, hskip]
    split
    · next heq => exact absurd (List.cons.inj heq).1 (by decide)
    · rw [hread]
      rfl

/-- The texts of items are read, if those of a value and of items are with one call less. -/
theorem itemsTakes_succ (hvalue : ValueTakes fuel) (hitems : ItemsTakes fuel) :
    ItemsTakes (fuel + 1) := by
  intro items text rest h hfuel
  cases h with
  | one h =>
    obtain ⟨behind, hread, hskip⟩ :=
      value?_padded hvalue h (Or.inr (Or.inl rfl)) rest hfuel
    rw [items?]
    simp only [hread, hskip]
  | @more item items s t h ht =>
    simp only [List.length_append, List.length_cons] at hfuel
    obtain ⟨behind, hread, hskip⟩ :=
      value?_padded hvalue h (Or.inl rfl) (t ++ ']' :: rest) (by omega)
    rw [items?, List.append_assoc, List.cons_append]
    simp only [hread, hskip, hitems _ _ rest ht (by omega), Option.map_some]

/-- The texts of members are read, if those of a value and of members are with one call less. -/
theorem membersTakes_succ (hvalue : ValueTakes fuel) (hmembers : MembersTakes fuel) :
    MembersTakes (fuel + 1) := by
  intro members text rest h hfuel
  cases h with
  | @one name value n s hname h =>
    obtain @⟨before, units, gap, hbefore, hunits, hgap⟩ := hname
    simp only [List.length_append, List.length_cons] at hfuel
    obtain ⟨behind, hread, hskip⟩ :=
      value?_padded hvalue h (Or.inr (Or.inr rfl)) rest (by omega)
    simp only [List.append_assoc, List.cons_append, members?, skipSpace_gap hbefore,
      skipSpace_cons (c := '"') rfl, string?_takes hunits, skipSpace_gap hgap,
      skipSpace_cons (c := ':') rfl, hread, hskip]
  | @more name value members n s t hname h ht =>
    obtain @⟨before, units, gap, hbefore, hunits, hgap⟩ := hname
    simp only [List.length_append, List.length_cons] at hfuel
    obtain ⟨behind, hread, hskip⟩ :=
      value?_padded hvalue h (Or.inl rfl) (t ++ '}' :: rest) (by omega)
    simp only [List.append_assoc, List.cons_append, members?, skipSpace_gap hbefore,
      skipSpace_cons (c := '"') rfl, string?_takes hunits, skipSpace_gap hgap,
      skipSpace_cons (c := ':') rfl, hread, hskip, hmembers _ _ rest ht (by omega), Option.map_some]

/-- The induction is on the number of calls, for the three readers at once. -/
theorem takes (fuel : Nat) : ValueTakes fuel ∧ ItemsTakes fuel ∧ MembersTakes fuel := by
  induction fuel with
  | zero =>
    -- No construct has a text that needs no call.
    refine ⟨?_, ?_, ?_⟩
    · intro tree text rest h _ hfuel
      obtain ⟨c, s, rfl, -⟩ := h.exists_cons
      simp only [List.length_cons] at hfuel
      omega
    · intro items text rest h hfuel
      obtain ⟨c, s, hskip, -⟩ := h.skipSpace []
      rw [List.eq_nil_of_length_eq_zero (by omega : text.length = 0)] at hskip
      cases hskip
    · intro members text rest h hfuel
      obtain ⟨s, hskip⟩ := h.skipSpace []
      rw [List.eq_nil_of_length_eq_zero (by omega : text.length = 0)] at hskip
      cases hskip
  | succ fuel ih =>
    obtain ⟨hvalue, hitems, hmembers⟩ := ih
    exact ⟨valueTakes_succ hitems hmembers, itemsTakes_succ hvalue hitems,
      membersTakes_succ hvalue hmembers⟩

end Takes

/-! ## Documents -/

/-- The reader reads a document in the texts that the grammar gives it, and in no others. -/
theorem Tree.ofText?_eq_some_iff {s : List Char} {tree : Tree} :
    Tree.ofText? s = some tree ↔ PaddedText tree s := by
  unfold Tree.ofText?
  constructor
  · intro h
    split at h
    · next found behind hread =>
      split at h
      · next hskip =>
        cases h
        obtain ⟨text, hs, htext⟩ := paddedText_of_taken (taken _).1 hread
        rw [hs, hskip, List.append_nil]
        exact htext
      · cases h
    · cases h
  · intro h
    obtain @⟨_, before, text, behind, hbefore, hvalue, hbehind⟩ := h
    have hfollows : Follows behind := fun c hc => Or.inl (hbehind c (List.mem_of_mem_head? hc))
    have hskip : skipSpace behind = [] := by
      have := skipSpace_gap hbehind []
      rwa [List.append_nil] at this
    have hread := (takes (2 * (before ++ (text ++ behind)).length + 1)).1 tree text behind hvalue
      hfollows (by simp only [List.length_append]; omega)
    rw [value?_gap hbefore, hread]
    exact if_pos hskip

end Phrasebook.Json
