import Mathlib.Data.List.Nodup
import Phrasebook.Proofs.Marks

/-!
# The forms of an element

An element is empty, or nothing but marks, or it has a content that either a `~` protects or that
does not look like one more mark. This is the grammar of elements as their authors know it, and
nothing in it speaks of scanning. The two meet in `markRun_append`: a run of marks that what follows
does not carry on is the longest one. So an element can be divided into a run and the rest in one
way only, and its form is told by the rest (`behindMarks`): there is none, it is a `~` alone, it
starts with a `~`, or it starts with something else.
-/

set_option autoImplicit false

namespace Phrasebook.Element

/-! ## The longest run -/

/-- The front of a run of marks is a run of marks. -/
theorem isMarkRun_of_append {run behind : List Char} (h : IsMarkRun (run ++ behind)) :
    IsMarkRun run := by
  obtain ⟨hmarks, hnodup⟩ := h
  refine ⟨?_, (List.nodup_append.1 hnodup).1⟩
  intro c hc
  exact hmarks c (List.mem_append_left behind hc)

/-- There are five runs of marks. -/
theorem isMarkRun_iff {run : List Char} :
    IsMarkRun run ↔ run ∈ [[], ['#'], ['$'], ['#', '$'], ['$', '#']] := by
  constructor
  · rintro ⟨hmarks, hnodup⟩
    match run with
    | [] => simp
    | [a] => simpa using hmarks
    | [a, b] =>
      have ha := hmarks a (by simp)
      have hb := hmarks b (by simp)
      have hab : a ≠ b := by simpa using hnodup
      rcases ha with rfl | rfl <;> rcases hb with rfl | rfl <;> simp at hab ⊢
    | a :: b :: c :: _ =>
      -- Of three marks two are the same.
      exfalso
      have ha := hmarks a (by simp)
      have hb := hmarks b (by simp)
      have hc := hmarks c (by simp)
      simp only [List.nodup_cons, List.mem_cons, not_or] at hnodup
      grind
  · intro h
    simp only [List.mem_cons, List.not_mem_nil, or_false] at h
    rcases h with rfl | rfl | rfl | rfl | rfl <;> decide

/-- What follows the run does not carry it on. -/
def EndsBefore (run rest : List Char) : Prop := ∀ c, rest.head? = some c → ¬IsMarkRun (run ++ [c])

/-- What stands behind the run of marks. -/
def behindMarks (chars : List Char) : List Char := chars.drop (markLength chars)

/-- A text is its run of marks and what stands behind. -/
theorem markRun_append_behindMarks (chars : List Char) :
    markRun chars ++ behindMarks chars = chars :=
  List.take_append_drop _ _

/-- What stands behind the run of marks does not carry it on. -/
theorem endsBefore_behindMarks (chars : List Char) :
    EndsBefore (markRun chars) (behindMarks chars) :=
  fun _ hc => not_isMarkRun_markRun_append hc

/-- A run that what follows does not carry on is the longest. -/
theorem markLength_append {run rest : List Char} (hrun : IsMarkRun run)
    (hend : EndsBefore run rest) : markLength (run ++ rest) = run.length := by
  apply Nat.le_antisymm
  · by_contra hlonger
    cases rest with
    | nil =>
      have hle : markLength (run ++ []) ≤ (run ++ []).length := Nat.findGreatest_le _
      rw [List.append_nil] at hle hlonger
      exact hlonger hle
    | cons c rest =>
      -- The longest run would start with this one and the character behind it.
      have htake : (run ++ c :: rest).take (run.length + 1) = run ++ [c] := by
        rw [List.take_length_add_append, List.take_succ_cons, List.take_zero]
      have hstart : run ++ [c] <+: markRun (run ++ c :: rest) := by
        rw [← htake]
        exact List.take_prefix_take_left (by omega)
      obtain ⟨behind, hbehind⟩ := hstart
      have hlongest : IsMarkRun (run ++ [c] ++ behind) := hbehind ▸ isMarkRun_markRun _
      exact hend c rfl (isMarkRun_of_append hlongest)
  · apply le_markLength
    · simp
    · simpa using hrun

/-- A run that is not carried on is the run of marks of the whole text. -/
theorem markRun_append {run rest : List Char} (hrun : IsMarkRun run) (hend : EndsBefore run rest) :
    markRun (run ++ rest) = run ∧ behindMarks (run ++ rest) = rest := by
  unfold markRun behindMarks
  rw [markLength_append hrun hend]
  simp

/-! ## The forms -/

/-- The marks that a content may have, but for the `~`. -/
def contentMarks : List String := ["", "#", "$", "#$", "$#"]

/-- The elements that are nothing but marks. -/
def bareElements : List String := ["#", "$", "#$", "$#", "~", "#~", "$~", "#$~", "$#~"]

/-- The element is its marks, a `~` and its content. -/
structure Shielded (element marks content : String) : Prop where
  marks_mem : marks ∈ contentMarks
  content_ne : content ≠ ""
  spelled : element = marks ++ "~" ++ content

/-- The element is its marks and its content, which does not start with one more mark. -/
structure Unshielded (element marks content : String) : Prop where
  marks_mem : marks ∈ contentMarks
  content_ne : content ≠ ""
  spelled : element = marks ++ content
  starts : ∀ c, content.toList.head? = some c →
    c ≠ '~' ∧ (c = '#' → '#' ∈ marks.toList) ∧ (c = '$' → '$' ∈ marks.toList)

/-- The forms of an element. -/
inductive Form where
  | empty
  | bare
  | shielded
  | unshielded
  deriving DecidableEq, Repr

/-- The element has the form. -/
def Form.Fits (element : String) : Form → Prop
  | .empty => element = ""
  | .bare => element ∈ bareElements
  | .shielded => ∃ marks content, Shielded element marks content
  | .unshielded => ∃ marks content, Unshielded element marks content

/-- The marks that a content may have are the runs of marks. -/
theorem mem_contentMarks_iff {marks : String} :
    marks ∈ contentMarks ↔ IsMarkRun marks.toList := by
  have hchars : contentMarks.map String.toList = [[], ['#'], ['$'], ['#', '$'], ['$', '#']] := by
    decide
  rw [isMarkRun_iff, ← hchars, List.mem_map_of_injective fun _ _ => String.toList_inj.1]

/-- A run ends before a character that is no mark, or a mark that it has. -/
theorem endsBefore_cons_iff {run rest : List Char} {c : Char} (hrun : IsMarkRun run) :
    EndsBefore run (c :: rest) ↔ (c = '#' → '#' ∈ run) ∧ (c = '$' → '$' ∈ run) := by
  constructor
  · intro hend
    have hlast : ¬IsMarkRun (run ++ [c]) := hend c rfl
    refine ⟨?_, ?_⟩
    · rintro rfl
      by_contra hnew
      exact hlast (isMarkRun_append_singleton hrun (Or.inl rfl) hnew)
    · rintro rfl
      by_contra hnew
      exact hlast (isMarkRun_append_singleton hrun (Or.inr rfl) hnew)
  · rintro ⟨hplaceholder, htight⟩ d hd hlonger
    obtain rfl : c = d := by simpa using hd
    have hold : c ∈ run := by
      rcases hlonger.1 c (by simp) with rfl | rfl
      · exact hplaceholder rfl
      · exact htight rfl
    have hnew : c ∉ run := by
      intro hmem
      exact (List.nodup_append.1 hlonger.2).2.2 c hmem c (by simp) rfl
    exact hnew hold

section Division

variable {element marks content : String}

/-- An element is shielded when a `~` and something else stand behind its marks. -/
theorem shielded_iff : Shielded element marks content ↔
    content ≠ "" ∧ marks.toList = markRun element.toList ∧
      behindMarks element.toList = '~' :: content.toList := by
  constructor
  · rintro ⟨hmarks, hcontent, rfl⟩
    have hrun : IsMarkRun marks.toList := mem_contentMarks_iff.1 hmarks
    have hend : EndsBefore marks.toList ('~' :: content.toList) := by
      rw [endsBefore_cons_iff hrun]
      exact ⟨by simp, by simp⟩
    have hchars : (marks ++ "~" ++ content).toList = marks.toList ++ '~' :: content.toList := by
      simp
    obtain ⟨hlongest, hbehind⟩ := markRun_append hrun hend
    rw [hchars]
    exact ⟨hcontent, hlongest.symm, hbehind⟩
  · rintro ⟨hcontent, hmarks, hbehind⟩
    refine ⟨?_, hcontent, ?_⟩
    · rw [mem_contentMarks_iff, hmarks]
      exact isMarkRun_markRun _
    · apply String.toList_inj.1
      have hdivided := markRun_append_behindMarks element.toList
      rw [← hmarks, hbehind] at hdivided
      rw [← hdivided]
      simp

/-- An element is unshielded when something other than a `~` stands behind its marks. -/
theorem unshielded_iff : Unshielded element marks content ↔
    content ≠ "" ∧ marks.toList = markRun element.toList ∧
      behindMarks element.toList = content.toList ∧ content.toList.head? ≠ some '~' := by
  constructor
  · rintro ⟨hmarks, hcontent, rfl, hstarts⟩
    have hrun : IsMarkRun marks.toList := mem_contentMarks_iff.1 hmarks
    obtain ⟨c, rest, hchars⟩ : ∃ c rest, content.toList = c :: rest :=
      List.exists_cons_of_ne_nil (by simpa using hcontent)
    obtain ⟨hliteral, hold⟩ := hstarts c (by rw [hchars]; rfl)
    have hend : EndsBefore marks.toList content.toList := by
      rw [hchars]
      exact (endsBefore_cons_iff hrun).2 hold
    obtain ⟨hlongest, hbehind⟩ := markRun_append hrun hend
    rw [String.toList_append]
    refine ⟨hcontent, hlongest.symm, hbehind, ?_⟩
    rw [hchars]
    simpa using hliteral
  · rintro ⟨hcontent, hmarks, hbehind, hliteral⟩
    have hdivided := markRun_append_behindMarks element.toList
    have hend := endsBefore_behindMarks element.toList
    rw [← hmarks, hbehind] at hdivided hend
    have hrun : IsMarkRun marks.toList := hmarks ▸ isMarkRun_markRun element.toList
    refine ⟨mem_contentMarks_iff.2 hrun, hcontent, ?_, ?_⟩
    · apply String.toList_inj.1
      rw [← hdivided, String.toList_append]
    · intro c hc
      obtain ⟨rest, hchars⟩ := List.head?_eq_some_iff.1 hc
      rw [hchars] at hend
      refine ⟨?_, (endsBefore_cons_iff hrun).1 hend⟩
      rintro rfl
      exact hliteral hc

/-- Nothing is left behind the marks of a bare element but a `~`. -/
theorem mem_bareElements_iff : element ∈ bareElements ↔
    element ≠ "" ∧ (behindMarks element.toList = [] ∨ behindMarks element.toList = ['~']) := by
  have hchars : element ∈ bareElements ↔ element.toList ∈ bareElements.map String.toList := by
    rw [List.mem_map_of_injective fun _ _ => String.toList_inj.1]
  rw [hchars]
  constructor
  · intro h
    have hall : ∀ chars ∈ bareElements.map String.toList,
        chars ≠ [] ∧ (behindMarks chars = [] ∨ behindMarks chars = ['~']) := by decide
    obtain ⟨hne, hbehind⟩ := hall element.toList h
    exact ⟨by simpa using hne, hbehind⟩
  · rintro ⟨hne, hbehind⟩
    have hall : ∀ run ∈ [[], ['#'], ['$'], ['#', '$'], ['$', '#']], ∀ rest ∈ [[], ['~']],
        run ++ rest = [] ∨ run ++ rest ∈ bareElements.map String.toList := by decide
    have hrun := isMarkRun_iff.1 (isMarkRun_markRun element.toList)
    have hrest : behindMarks element.toList ∈ [[], ['~']] := by simpa using hbehind
    have hdivided := hall _ hrun _ hrest
    rw [markRun_append_behindMarks] at hdivided
    exact hdivided.resolve_left (by simpa using hne)

end Division

/-! ## One form each -/

namespace Form

variable {element : String}

/-- The shielded form, by what stands behind the marks. -/
theorem fits_shielded_iff : Fits element .shielded ↔
    ∃ c rest, behindMarks element.toList = '~' :: c :: rest := by
  constructor
  · rintro ⟨marks, content, h⟩
    obtain ⟨hcontent, -, hbehind⟩ := shielded_iff.1 h
    obtain ⟨c, rest, hchars⟩ := List.exists_cons_of_ne_nil
      (show content.toList ≠ [] by simpa using hcontent)
    exact ⟨c, rest, hchars ▸ hbehind⟩
  · rintro ⟨c, rest, hbehind⟩
    refine ⟨String.ofList (markRun element.toList), String.ofList (c :: rest), ?_⟩
    rw [shielded_iff, String.toList_ofList, String.toList_ofList]
    exact ⟨by simp, rfl, hbehind⟩

/-- The unshielded form, by what stands behind the marks. -/
theorem fits_unshielded_iff : Fits element .unshielded ↔
    ∃ c rest, behindMarks element.toList = c :: rest ∧ c ≠ '~' := by
  constructor
  · rintro ⟨marks, content, h⟩
    obtain ⟨hcontent, -, hbehind, hliteral⟩ := unshielded_iff.1 h
    obtain ⟨c, rest, hchars⟩ := List.exists_cons_of_ne_nil
      (show content.toList ≠ [] by simpa using hcontent)
    rw [hchars] at hbehind hliteral
    exact ⟨c, rest, hbehind, by simpa using hliteral⟩
  · rintro ⟨c, rest, hbehind, hliteral⟩
    refine ⟨String.ofList (markRun element.toList), String.ofList (c :: rest), ?_⟩
    rw [unshielded_iff, String.toList_ofList, String.toList_ofList]
    exact ⟨by simp, rfl, hbehind, by simpa using hliteral⟩

/-- The form that what stands behind the marks tells. -/
def ofElement (element : String) : Form :=
  match behindMarks element.toList with
  | [] => if element = "" then .empty else .bare
  | ['~'] => .bare
  | '~' :: _ :: _ => .shielded
  | _ => .unshielded

/-- An element fits one form, the one that stands behind its marks. -/
theorem fits_iff {form : Form} : Fits element form ↔ form = ofElement element := by
  have hkinds : Fits element form ↔
      match form with
      | .empty => element = ""
      | .bare => element ≠ "" ∧
          (behindMarks element.toList = [] ∨ behindMarks element.toList = ['~'])
      | .shielded => ∃ c rest, behindMarks element.toList = '~' :: c :: rest
      | .unshielded => ∃ c rest, behindMarks element.toList = c :: rest ∧ c ≠ '~' := by
    cases form with
    | empty => exact Iff.rfl
    | bare => exact mem_bareElements_iff
    | shielded => exact fits_shielded_iff
    | unshielded => exact fits_unshielded_iff
  rw [hkinds]
  unfold ofElement
  cases hbehind : behindMarks element.toList with
  | nil => by_cases hempty : element = "" <;> cases form <;> simp [hempty]
  | cons c rest =>
    have hempty : element ≠ "" := by
      rintro rfl
      cases hbehind
    by_cases hc : c = '~'
    · subst hc
      cases rest <;> cases form <;> simp [hempty]
    · cases form <;> simp [hempty, hc]

end Form

/-! ## Reading -/

/-- A run of marks is that of a placeholder when it has a `#`. -/
theorem kindOfRun_dynamic (run : List Char) : (kindOfRun run).dynamic = true ↔ '#' ∈ run := by
  simp [kindOfRun]

/-- A run of marks takes the space away when it has a `$`. -/
theorem kindOfRun_spaced (run : List Char) : (kindOfRun run).spaced = false ↔ '$' ∈ run := by
  simp [kindOfRun]

/-- Both ways of dividing an element give the marks and the content that are read from it. -/
theorem read_of_division {element marks content : String}
    (h : Shielded element marks content ∨ Unshielded element marks content) :
    marks.toList = markRun element.toList ∧ content.toList = afterMarks element.toList ∧
      read element = ⟨kindOfRun marks.toList, content, false⟩ := by
  have hdivision : content ≠ "" ∧ marks.toList = markRun element.toList ∧
      content.toList = afterMarks element.toList := by
    rcases h with h | h
    · obtain ⟨hcontent, hmarks, hbehind⟩ := shielded_iff.1 h
      refine ⟨hcontent, hmarks, ?_⟩
      show _ = dropLiteral (behindMarks element.toList)
      rw [hbehind]
      rfl
    · obtain ⟨hcontent, hmarks, hbehind, hliteral⟩ := unshielded_iff.1 h
      refine ⟨hcontent, hmarks, ?_⟩
      show _ = dropLiteral (behindMarks element.toList)
      rw [hbehind]
      unfold dropLiteral
      split
      · next hchars => exact absurd (by rw [hchars]; rfl) hliteral
      · rfl
  obtain ⟨hcontent, hmarks, hafter⟩ := hdivision
  refine ⟨hmarks, hafter, ?_⟩
  have hne : afterMarks element.toList ≠ [] := by
    rw [← hafter]
    simpa using hcontent
  rw [read_of_afterMarks_ne_nil hne, ← hmarks, ← hafter, String.ofList_toList]

/-- Every element has exactly one of four forms, and the form says how it is read. The empty element
is plain text without a content. An element that is nothing but marks is malformed, and its marks
count for nothing. Any other element is marks, perhaps a `~`, and a content; it can be divided so in
one way only, and the content, which is the end of the element, is read under the kind that the
marks name. -/
theorem read_follows_grammar (element : String) :
    (∃! form, Form.Fits element form) ∧
    (element = "" → read element = ⟨.plain, "", false⟩) ∧
    (element ∈ bareElements → read element = ⟨⟨false, false⟩, "", true⟩) ∧
    ∀ marks content, Shielded element marks content ∨ Unshielded element marks content →
      (read element).content = content ∧ (read element).malformed = false ∧
      ((read element).kind.dynamic = true ↔ '#' ∈ marks.toList) ∧
      ((read element).kind.spaced = false ↔ '$' ∈ marks.toList) ∧
      (∃ front, element = front ++ content) ∧
      ∀ others rest, Shielded element others rest ∨ Unshielded element others rest →
        others = marks ∧ rest = content := by
  refine ⟨⟨Form.ofElement element, Form.fits_iff.2 rfl, fun form => Form.fits_iff.1⟩, ?_, ?_, ?_⟩
  · rintro rfl
    exact read_empty
  · intro hbare
    obtain ⟨hne, hbehind⟩ := mem_bareElements_iff.1 hbare
    apply read_of_afterMarks_eq_nil hne
    show dropLiteral (behindMarks element.toList) = []
    rcases hbehind with hbehind | hbehind <;> rw [hbehind] <;> rfl
  · intro marks content h
    obtain ⟨hmarks, hafter, hread⟩ := read_of_division h
    rw [hread]
    refine ⟨rfl, rfl, kindOfRun_dynamic _, kindOfRun_spaced _, ?_, ?_⟩
    · rcases h with h | h
      · exact ⟨marks ++ "~", h.spelled⟩
      · exact ⟨marks, h.spelled⟩
    · intro others rest hother
      obtain ⟨hothers, hrest, -⟩ := read_of_division hother
      exact ⟨String.toList_inj.1 (hothers.trans hmarks.symm),
        String.toList_inj.1 (hrest.trans hafter.symm)⟩

/-- An element whose content starts with a mark that it has already, and one with nothing behind its
marks. -/
theorem read_follows_grammar_repeated :
    let element := "$##é~"
    (∃! form, Form.Fits element form) ∧ Unshielded element "$#" "#é~" ∧
      (read element).content = "#é~" ∧ (read element).malformed = false ∧
      (read element).kind = ⟨true, false⟩ ∧
      (∀ marks content, Shielded element marks content ∨ Unshielded element marks content →
        marks = "$#" ∧ content = "#é~") ∧
      "$#~" ∈ bareElements ∧ read "$#~" = ⟨⟨false, false⟩, "", true⟩ := by
  intro element
  obtain ⟨hform, -, -, hdivided⟩ := read_follows_grammar element
  obtain ⟨-, -, hbare, -⟩ := read_follows_grammar "$#~"
  have hdivision : Unshielded element "$#" "#é~" := unshielded_iff.2 (by decide)
  obtain ⟨hcontent, hmalformed, hdynamic, hspaced, -, hunique⟩ :=
    hdivided "$#" "#é~" (Or.inr hdivision)
  have hkind : (read element).kind = ⟨true, false⟩ := by
    have hplaceholder : (read element).kind.dynamic = true := hdynamic.2 (by decide)
    have htight : (read element).kind.spaced = false := hspaced.2 (by decide)
    rw [← hplaceholder, ← htight]
  have hmem : "$#~" ∈ bareElements := by decide
  exact ⟨hform, hdivision, hcontent, hmalformed, hkind, hunique, hmem, hbare hmem⟩

end Phrasebook.Element
