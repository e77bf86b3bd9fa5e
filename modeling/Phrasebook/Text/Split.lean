/-!
# Parts of a text

A text is split at every separator, so that the parts with the separator between them give it back
(`intercalate_split`), and parts without a separator are found again (`split_intercalate`). `cut?`
splits once, at the first separator.
-/

set_option autoImplicit false

namespace Phrasebook.Text

/-- The parts of a text between the separators. There is always one. -/
def split (separator : Char) : List Char → List (List Char)
  | [] => [[]]
  | c :: rest =>
    if c = separator then [] :: split separator rest
    else match split separator rest with
      | [] => [[c]]
      | part :: parts => (c :: part) :: parts

/-- The text before the first separator and the text behind it, if there is one. -/
def cut? (separator : Char) : List Char → Option (List Char × List Char)
  | [] => none
  | c :: rest =>
    if c = separator then some ([], rest)
    else (cut? separator rest).map fun (before, behind) => (c :: before, behind)

/-- A cut is at the first separator, and nothing else is lost. -/
theorem cut?_eq_some_iff {separator : Char} {s before behind : List Char} :
    cut? separator s = some (before, behind)
      ↔ s = before ++ separator :: behind ∧ separator ∉ before := by
  induction s generalizing before behind with
  | nil => simp [cut?]
  | cons c rest ih =>
    simp only [cut?]
    by_cases hc : c = separator
    · rw [if_pos hc]
      constructor
      · intro h
        simp only [Option.some.injEq, Prod.mk.injEq] at h
        rw [← h.1, ← h.2, hc]
        simp
      · rintro ⟨h, hnot⟩
        cases before with
        | nil => simp only [List.nil_append, List.cons.injEq] at h; rw [h.2]
        | cons b before =>
          simp only [List.cons_append, List.cons.injEq] at h
          exact absurd (by rw [← h.1, hc]; exact List.mem_cons_self) hnot
    · rw [if_neg hc, Option.map_eq_some_iff]
      constructor
      · rintro ⟨⟨x, y⟩, hxy, heq⟩
        simp only [Prod.mk.injEq] at heq
        obtain ⟨hrest, hnot⟩ := ih.1 hxy
        rw [← heq.1, ← heq.2, hrest]
        refine ⟨rfl, fun hm => ?_⟩
        rcases List.mem_cons.1 hm with h | h
        · exact hc h.symm
        · exact hnot h
      · rintro ⟨h, hnot⟩
        cases before with
        | nil => simp only [List.nil_append, List.cons.injEq] at h; exact absurd h.1 hc
        | cons b before =>
          simp only [List.cons_append, List.cons.injEq] at h
          refine ⟨(before, behind), ih.2 ⟨h.2, fun hm => hnot (List.mem_cons_of_mem _ hm)⟩, ?_⟩
          rw [h.1]

/-- A text cannot be cut where it has no separator. -/
theorem cut?_eq_none_iff {separator : Char} {s : List Char} :
    cut? separator s = none ↔ separator ∉ s := by
  induction s with
  | nil => simp [cut?]
  | cons c rest ih =>
    by_cases hc : c = separator
    · simp [cut?, hc]
    · have hc' : ¬separator = c := fun h => hc h.symm
      simp [cut?, hc, hc', ih]

/-- There is always a part, which may be empty. -/
theorem split_ne_nil (separator : Char) (s : List Char) : split separator s ≠ [] := by
  cases s with
  | nil => simp [split]
  | cons c rest =>
    simp only [split]
    split
    · simp
    · split <;> simp

/-- The parts joined by separators are the text again. -/
theorem intercalate_split (separator : Char) (s : List Char) :
    [separator].intercalate (split separator s) = s := by
  induction s with
  | nil => rfl
  | cons c rest ih =>
    obtain ⟨part, parts, hp⟩ := List.exists_cons_of_ne_nil (split_ne_nil separator rest)
    simp only [split, hp] at ih ⊢
    split
    · next hc => rw [List.intercalate_cons_cons, ih, hc]; rfl
    · cases parts with
      | nil => simpa using ih
      | cons next others => simpa using ih

/-- A separator divides the parts before it from those behind it. -/
theorem split_append (separator : Char) (before behind : List Char) :
    split separator (before ++ separator :: behind)
      = split separator before ++ split separator behind := by
  induction before with
  | nil => simp [split]
  | cons c before ih =>
    obtain ⟨part, parts, hp⟩ := List.exists_cons_of_ne_nil (split_ne_nil separator before)
    rw [List.cons_append, split, ih, split, hp]
    split
    · rfl
    · rfl

/-- A text without separators is its own only part. -/
theorem split_of_notMem {separator : Char} {part : List Char} (h : separator ∉ part) :
    split separator part = [part] := by
  induction part with
  | nil => rfl
  | cons c part ih =>
    have hc : ¬c = separator := fun heq => h (heq ▸ List.mem_cons_self)
    rw [split, if_neg hc, ih fun hm => h (List.mem_cons_of_mem _ hm)]

/-- Parts without a separator are found again. -/
theorem split_intercalate {separator : Char} {parts : List (List Char)} (hne : parts ≠ [])
    (h : ∀ part ∈ parts, separator ∉ part) :
    split separator ([separator].intercalate parts) = parts := by
  induction parts with
  | nil => exact absurd rfl hne
  | cons part parts ih =>
    have hpart := h part List.mem_cons_self
    cases parts with
    | nil => simpa using split_of_notMem hpart
    | cons next others =>
      rw [List.intercalate_cons_cons, List.append_assoc, List.singleton_append, split_append,
        split_of_notMem hpart, List.singleton_append,
        ih (List.cons_ne_nil _ _) fun p hp => h p (List.mem_cons_of_mem _ hp)]

end Phrasebook.Text
