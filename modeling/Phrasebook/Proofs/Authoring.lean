import Phrasebook.Proofs.Compiling

/-!
# Writing a message down

Whatever a message holds can be written as a template: the marks say what kind a segment is of, and
a `~` behind them protects the content, so it may begin with a mark itself. `Element.read_spelled`
says that an element written in this way is read as what it was written for. The one thing that
cannot be written is a placeholder without a name, and no template gives one
(`Segment.name?_ofElement`). So `Message.toTemplate` is a right inverse of compiling on exactly the
messages that templates have.
-/

set_option autoImplicit false

namespace Phrasebook

/-! ## Spelling an element -/

/-- The marks of a kind. They may be written in any order. -/
def Kind.marks (kind : Kind) : List Char :=
  (if kind.dynamic then ['#'] else []) ++ (if kind.spaced then [] else ['$'])

namespace Element

/-- The marks of a kind are a run of marks. -/
theorem isMarkRun_marks (kind : Kind) : IsMarkRun kind.marks := by
  obtain ⟨dynamic, spaced⟩ := kind
  cases dynamic <;> cases spaced <;> decide

/-- The marks of a kind give the kind back. -/
theorem kindOfRun_marks (kind : Kind) : kindOfRun kind.marks = kind := by
  obtain ⟨dynamic, spaced⟩ := kind
  cases dynamic <;> cases spaced <;> rfl

/-- Neither what a run of marks is nor what it says depends on the order of the marks. -/
theorem isMarkRun_of_perm {run others : List Char} (h : run.Perm others) (hrun : IsMarkRun others) :
    IsMarkRun run :=
  ⟨fun c hc => hrun.1 c (h.mem_iff.1 hc), h.nodup_iff.2 hrun.2⟩

/-- The kind does not depend on the order of the marks. -/
theorem kindOfRun_of_perm {run others : List Char} (h : run.Perm others) :
    kindOfRun run = kindOfRun others := by
  simp only [kindOfRun, h.mem_iff]

/-- A run of marks ends before a `~`, which is dropped. -/
theorem stripMarks_literal {run : List Char} (h : IsMarkRun run) (content : List Char) :
    stripMarks .plain (run ++ '~' :: content) = (kindOfRun run, content) := by
  have hrun : IsMarkRun ([] ++ run) := h
  have hend : ∀ c, ('~' :: content).head? = some c → ¬ IsMarkRun ([] ++ run ++ [c]) := by
    intro c hc hlonger
    rw [List.head?_cons, Option.some_inj] at hc
    subst hc
    rcases hlonger.1 '~' (by simp) with heq | heq <;> exact absurd heq (by decide)
  have hstrip := stripMarks_append hrun hend
  rwa [kindOfRun_nil, List.nil_append] at hstrip

/-- An element that is written as the marks of a kind, a `~` and a content is read as that content
of that kind, whatever the content begins with. -/
theorem read_spelled {kind : Kind} {marks : List Char} (hmarks : marks.Perm kind.marks)
    {content : String} (hcontent : content ≠ "") :
    read (String.ofList marks ++ "~" ++ content) = ⟨kind, content, false⟩ := by
  have hrun : IsMarkRun marks := isMarkRun_of_perm hmarks (isMarkRun_marks kind)
  have hkind : kindOfRun marks = kind := (kindOfRun_of_perm hmarks).trans (kindOfRun_marks kind)
  have hchars : (String.ofList marks ++ "~" ++ content).toList
      = marks ++ '~' :: content.toList := by
    simp
  have hstrip := stripMarks_literal hrun content.toList
  rw [hkind, ← hchars] at hstrip
  have hread := read_of_stripMarks (by simpa using hcontent) hstrip
  rwa [String.ofList_toList] at hread

end Element

/-! ## Spelling a segment -/

namespace Segment

/-- An element that compiles to the segment. -/
def toElement : Segment → String
  | .literal text => if text = "" then "$" else "$~" ++ text
  | .placeholder name true => "#~" ++ name
  | .placeholder name false => "#$~" ++ name

/-- No element names a placeholder by nothing. -/
theorem name?_ofElement (element : String) : (ofElement element).name? ≠ some "" := by
  by_cases hne : element = ""
  · subst hne
    decide
  · by_cases hbare : Element.IsBare element
    · rw [ofElement_eq_literal_empty_iff.2 hbare]
      decide
    · have hafter : Element.afterMarks element.toList ≠ [] := fun h => hbare ⟨hne, h⟩
      rw [ofElement, Element.read_of_afterMarks_ne_nil hafter, ofContent]
      split
      · simpa [name?] using hafter
      · simp [name?]

/-- The element that spells a segment compiles to it. -/
theorem ofElement_toElement {segment : Segment} (h : segment.name? ≠ some "") :
    ofElement segment.toElement = segment := by
  cases segment with
  | literal text =>
    by_cases htext : text = ""
    · subst htext
      rfl
    · have hmarks : ['$'].Perm (Kind.marks ⟨false, false⟩) := List.Perm.refl _
      have hread : Element.read ("$~" ++ text) = ⟨⟨false, false⟩, text, false⟩ :=
        Element.read_spelled hmarks htext
      rw [toElement, if_neg htext, ofElement, hread]
      rfl
  | placeholder name spaced =>
    have hname : name ≠ "" := fun heq => h (congrArg some heq)
    cases spaced with
    | true =>
      have hmarks : ['#'].Perm (Kind.marks ⟨true, true⟩) := List.Perm.refl _
      have hread : Element.read ("#~" ++ name) = ⟨⟨true, true⟩, name, false⟩ :=
        Element.read_spelled hmarks hname
      rw [toElement, ofElement, hread]
      rfl
    | false =>
      have hmarks : ['#', '$'].Perm (Kind.marks ⟨true, false⟩) := List.Perm.refl _
      have hread : Element.read ("#$~" ++ name) = ⟨⟨true, false⟩, name, false⟩ :=
        Element.read_spelled hmarks hname
      rw [toElement, ofElement, hread]
      rfl

end Segment

/-! ## Spelling a message -/

/-- A template that compiles to the message. -/
def Message.toTemplate (message : Message) : Template := message.map Segment.toElement

/-- The warnings of the literals without text among the segments, the first of which stands at the
given place. -/
def Message.silencesFrom (key : String) (index : Nat) (message : Message) : List Warning :=
  ((message.zipIdx index).filter (·.1 = .literal "")).map fun entry => ⟨key, entry.2, "$"⟩

/-- A written message is warned of where it has a silence, and nowhere else. -/
theorem Message.warningsFrom_toTemplate {message : Message}
    (h : ∀ segment ∈ message, segment.name? ≠ some "") (key : String) (index : Nat) :
    Template.warningsFrom key index message.toTemplate = message.silencesFrom key index := by
  induction message generalizing index with
  | nil => rfl
  | cons segment rest ih =>
    have hrest := ih (fun other hother => h other (List.mem_cons_of_mem _ hother)) (index + 1)
    have hsegment := Segment.ofElement_toElement (h segment List.mem_cons_self)
    have hbare : (Element.read segment.toElement).malformed = true ↔ segment = .literal "" := by
      rw [Element.malformed_read_iff, ← Segment.ofElement_eq_literal_empty_iff, hsegment]
    rw [toTemplate, List.map_cons, Template.warningsFrom, silencesFrom, List.zipIdx_cons]
    by_cases hsilent : segment = .literal ""
    · rw [if_pos (hbare.2 hsilent), List.filter_cons_of_pos (by simpa using hsilent),
        List.map_cons, hsilent]
      exact congrArg _ hrest
    · rw [if_neg (mt hbare.1 hsilent), List.filter_cons_of_neg (by simpa using hsilent)]
      exact hrest

/-- A message that is written down is compiled to itself. -/
theorem Message.compile_toTemplate {message : Message}
    (h : ∀ segment ∈ message, segment.name? ≠ some "") : message.toTemplate.compile = message := by
  rw [toTemplate, Template.compile, List.map_map]
  refine (List.map_congr_left fun segment hsegment => ?_).trans (List.map_id message)
  exact Segment.ofElement_toElement (h segment hsegment)

/-- The messages of templates are those whose placeholders have names, and each of them has a
template: writing down its segments and compiling what has been written gives it back, with a
warning for each literal without text and no others, whatever has been compiled before. An element
that is written as the marks of a kind in some order, a `~` and a content is read as that kind and
that content. -/
theorem Message.message_toTemplate (compiler : Compiler) (key : String) :
    (∀ template, ∀ segment ∈ (compiler.message key template).1, segment.name? ≠ some "") ∧
    (∀ message : Message, (∀ segment ∈ message, segment.name? ≠ some "") →
      compiler.message key message.toTemplate
        = (message, ⟨compiler.warnings ++ message.silencesFrom key 0⟩)) ∧
    (∀ (kind : Kind) (marks : List Char) (content : String), marks.Perm kind.marks →
      content ≠ "" →
        Element.read (String.ofList marks ++ "~" ++ content) = ⟨kind, content, false⟩) := by
  refine ⟨?_, ?_, fun kind marks content hmarks hcontent =>
    Element.read_spelled hmarks hcontent⟩
  · intro template segment hsegment
    obtain ⟨element, -, rfl⟩ := List.mem_map.1 hsegment
    exact Segment.name?_ofElement element
  · intro message hnames
    rw [Compiler.message, compile_toTemplate hnames, Template.warnings,
      warningsFrom_toTemplate hnames]

/-- A message that begins and ends with marks, with a silent literal between, and an element whose
content is all marks. -/
theorem Message.message_toTemplate_marks :
    let message : Message :=
      [.literal "#~$", .literal "", .placeholder "~ü" true, .placeholder "#" false]
    message.toTemplate = ["$~#~$", "$", "#~~ü", "#$~#"] ∧
      (∀ segment ∈ message, segment.name? ≠ some "") ∧
      Compiler.new.message "key" message.toTemplate = (message, ⟨[⟨"key", 1, "$"⟩]⟩) ∧
      Element.read "$#~~$#" = ⟨⟨true, false⟩, "~$#", false⟩ := by
  intro message
  obtain ⟨-, hmessage, hspelled⟩ := message_toTemplate Compiler.new "key"
  have hnames : ∀ segment ∈ message, segment.name? ≠ some "" := by decide
  refine ⟨by decide, hnames, hmessage message hnames, ?_⟩
  exact hspelled ⟨true, false⟩ ['$', '#'] "~$#" (List.Perm.swap _ _ _) (by decide)

end Phrasebook
