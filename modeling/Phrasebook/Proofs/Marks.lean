import Mathlib.Data.List.Nodup
import Mathlib.Data.Nat.Find
import Phrasebook.Element

/-!
# The run of marks before a content

`Element.stripMarks` reads an element character by character and carries what the marks have said so
far. Seen from outside it takes off the longest run of `#` and `$` in which each occurs at most once
(`markRun`), then one `~`; the run alone says what kind of content follows. `stripMarks_plain` is
that statement. `read_of_afterMarks_eq_nil` and `read_of_afterMarks_ne_nil` carry it over to
`Element.read`, and nothing that is proved about templates has to look behind them.
-/

set_option autoImplicit false

namespace Phrasebook.Element

/-! ## Runs of marks -/

/-- Some of the marks `#` and `$`, each at most once. -/
def IsMarkRun (run : List Char) : Prop := (∀ c ∈ run, c = '#' ∨ c = '$') ∧ run.Nodup

-- The run is looked through by name: a search may find the instance that looks through all
-- characters, with which nothing can be evaluated.
/-- Whether characters are a run of marks can be decided. -/
instance (run : List Char) : Decidable (IsMarkRun run) :=
  @instDecidableAnd _ _ (List.decidableBAll (fun c => c = '#' ∨ c = '$') run)
    (List.nodupDecidable run)

/-- The length of the longest run of marks that the characters begin with. -/
def markLength (chars : List Char) : Nat :=
  Nat.findGreatest (fun n => IsMarkRun (chars.take n)) chars.length

/-- The longest run of marks that the characters begin with. -/
def markRun (chars : List Char) : List Char := chars.take (markLength chars)

/-- The characters without a `~` at their front. -/
def dropLiteral : List Char → List Char
  | '~' :: rest => rest
  | rest => rest

/-- What stands behind the run of marks and the `~` that may end it. -/
def afterMarks (chars : List Char) : List Char := dropLiteral (chars.drop (markLength chars))

/-- What a run of marks says about the content behind it. -/
def kindOfRun (run : List Char) : Kind := ⟨decide ('#' ∈ run), decide ('$' ∉ run)⟩

/-- Without marks the kind is plain. -/
@[simp] theorem kindOfRun_nil : kindOfRun [] = .plain := rfl

/-- No characters are a run of marks. -/
theorem isMarkRun_nil : IsMarkRun [] := ⟨by simp, List.nodup_nil⟩

/-- The run of marks of a text is one. -/
theorem isMarkRun_markRun (chars : List Char) : IsMarkRun (markRun chars) :=
  Nat.findGreatest_spec (P := fun n => IsMarkRun (chars.take n)) (Nat.zero_le _) isMarkRun_nil

/-- No longer run of marks stands at the front. -/
theorem le_markLength {chars : List Char} {n : Nat} (hn : n ≤ chars.length)
    (h : IsMarkRun (chars.take n)) : n ≤ markLength chars :=
  Nat.le_findGreatest hn h

/-- The character behind the run of marks does not carry the run on. -/
theorem not_isMarkRun_markRun_append {chars : List Char} {c : Char}
    (h : (chars.drop (markLength chars)).head? = some c) :
    ¬ IsMarkRun (markRun chars ++ [c]) := by
  intro hrun
  rw [List.head?_drop] at h
  obtain ⟨hlt, -⟩ := List.getElem?_eq_some_iff.1 h
  have htake : chars.take (markLength chars + 1) = markRun chars ++ [c] := by
    rw [List.take_add_one, h]
    rfl
  have hle := le_markLength hlt (htake ▸ hrun)
  omega

/-- A mark that has not been read yet carries a run on. -/
theorem isMarkRun_append_singleton {run : List Char} {c : Char} (h : IsMarkRun run)
    (hc : c = '#' ∨ c = '$') (hnew : c ∉ run) : IsMarkRun (run ++ [c]) := by
  refine ⟨?_, ?_⟩
  · intro d hd
    rcases List.mem_append.1 hd with hd | hd
    · exact h.1 d hd
    · rw [List.mem_singleton.1 hd]
      exact hc
  · rw [← List.concat_eq_append]
    exact h.2.concat hnew

/-! ## Stripping the marks -/

/-- Behind a run that nothing carries on, stripping ends: a `~` is dropped and anything else is
content. -/
theorem stripMarks_of_run_ended {run rest : List Char} (hrun : IsMarkRun run)
    (hend : ∀ c, rest.head? = some c → ¬ IsMarkRun (run ++ [c])) :
    stripMarks (kindOfRun run) rest = (kindOfRun run, dropLiteral rest) := by
  cases rest with
  | nil => rfl
  | cons c rest =>
    have hold : c = '#' ∨ c = '$' → c ∈ run := by
      intro hc
      by_contra hnew
      exact hend c rfl (isMarkRun_append_singleton hrun hc hnew)
    by_cases hp : c = '#'
    · subst hp
      have hmem : '#' ∈ run := hold (Or.inl rfl)
      simp [stripMarks, Mark.ofChar?, kindOfRun, hmem, dropLiteral]
    · by_cases ht : c = '$'
      · subst ht
        have hmem : '$' ∈ run := hold (Or.inr rfl)
        simp [stripMarks, Mark.ofChar?, kindOfRun, hmem, dropLiteral]
      · by_cases hl : c = '~'
        · subst hl
          simp [stripMarks, Mark.ofChar?, dropLiteral]
        · simp [stripMarks, Mark.ofChar?, hp, ht, hl, dropLiteral]

/-- One mark of a run is read and remembered. -/
theorem stripMarks_cons_of_run {seen chars : List Char} {c : Char} (hc : c = '#' ∨ c = '$')
    (hnew : c ∉ seen) :
    stripMarks (kindOfRun seen) (c :: chars) = stripMarks (kindOfRun (seen ++ [c])) chars := by
  rcases hc with rfl | rfl
  · simp [stripMarks, Mark.ofChar?, kindOfRun, hnew]
  · simp [stripMarks, Mark.ofChar?, kindOfRun, hnew]

/-- Stripping reads a run to its end. The induction is on the part of the run that is still to be
read, behind the part that the kind remembers. -/
theorem stripMarks_append {seen run rest : List Char} (hrun : IsMarkRun (seen ++ run))
    (hend : ∀ c, rest.head? = some c → ¬ IsMarkRun (seen ++ run ++ [c])) :
    stripMarks (kindOfRun seen) (run ++ rest) = (kindOfRun (seen ++ run), dropLiteral rest) := by
  induction run generalizing seen with
  | nil =>
    rw [List.append_nil] at hrun hend ⊢
    exact stripMarks_of_run_ended hrun hend
  | cons c run ih =>
    have hsplit : seen ++ c :: run = seen ++ [c] ++ run := by simp
    have hc : c = '#' ∨ c = '$' := hrun.1 c (by simp)
    have hnew : c ∉ seen := fun hmem =>
      (List.nodup_append.1 hrun.2).2.2 c hmem c List.mem_cons_self rfl
    rw [List.cons_append, stripMarks_cons_of_run hc hnew, hsplit]
    rw [hsplit] at hrun hend
    exact ih hrun hend

/-- The marks of an element are its longest run of marks and the `~` behind it. -/
theorem stripMarks_plain (chars : List Char) :
    stripMarks .plain chars = (kindOfRun (markRun chars), afterMarks chars) := by
  have hrun : IsMarkRun ([] ++ markRun chars) := isMarkRun_markRun chars
  have hsplit : markRun chars ++ chars.drop (markLength chars) = chars :=
    List.take_append_drop _ _
  have h := stripMarks_append hrun fun c hc => not_isMarkRun_markRun_append hc
  rwa [kindOfRun_nil, List.nil_append, hsplit] at h

/-! ## Reading an element -/

/-- An element with nothing behind its marks is malformed and stands for nothing. -/
theorem read_of_afterMarks_eq_nil {element : String} (hne : element ≠ "")
    (h : afterMarks element.toList = []) : read element = ⟨⟨false, false⟩, "", true⟩ := by
  have hchars : element.toList ≠ [] := by simpa using hne
  obtain ⟨c, rest, hcons⟩ := List.exists_cons_of_ne_nil hchars
  have hstrip := stripMarks_plain element.toList
  rw [h, hcons] at hstrip
  simp [read, hcons, hstrip]

/-- An element from which a content is left when its marks are stripped is read as that content. -/
theorem read_of_stripMarks {element : String} {kind : Kind} {content : List Char}
    (hcontent : content ≠ []) (h : stripMarks .plain element.toList = (kind, content)) :
    read element = ⟨kind, String.ofList content, false⟩ := by
  cases hchars : element.toList with
  | nil =>
    rw [hchars] at h
    exact absurd (Prod.mk.inj h).2.symm hcontent
  | cons c rest =>
    obtain ⟨d, behind, rfl⟩ := List.exists_cons_of_ne_nil hcontent
    rw [hchars] at h
    simp [read, hchars, h]

/-- An element with something behind its marks has that as its content. -/
theorem read_of_afterMarks_ne_nil {element : String} (h : afterMarks element.toList ≠ []) :
    read element =
      ⟨kindOfRun (markRun element.toList), String.ofList (afterMarks element.toList), false⟩ :=
  read_of_stripMarks h (stripMarks_plain element.toList)

/-- The empty element is empty plain text. -/
@[simp] theorem read_empty : read "" = ⟨.plain, "", false⟩ := rfl

end Phrasebook.Element
