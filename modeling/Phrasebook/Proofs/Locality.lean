import Phrasebook.Dictionary.Lifecycle

/-!
# What a rendered text depends on

A segment reads the value of its own placeholder and nothing else (`Segment.render_congr`), and what
it writes depends on its own element and on no other. So two substitutions that agree on the
placeholders of a message cannot be told apart by rendering it, and the text of a template is put
together from texts of its elements that do not know of each other. A value that is missing counts
as one that is empty throughout.
-/

set_option autoImplicit false

namespace Phrasebook

/-! ## Values -/

/-- A segment reads the value of its own placeholder and no other. -/
theorem Segment.render_congr {segment : Segment} {s t : Substitution}
    (h : ∀ name ∈ segment.name?, (s name).getD "" = (t name).getD "") :
    segment.render s = segment.render t := by
  cases segment with
  | literal text => rfl
  | placeholder name spaced =>
    have hname : (s name).getD "" = (t name).getD "" := h name rfl
    rw [render, render, hname]

namespace Message

/-- The segments of a message are rendered alike when the values of its placeholders are. -/
theorem map_render_congr {message : Message} {s t : Substitution}
    (h : ∀ name ∈ message.placeholders, (s name).getD "" = (t name).getD "") :
    message.map (Segment.render s) = message.map (Segment.render t) := by
  apply List.map_congr_left
  intro segment hsegment
  apply Segment.render_congr
  intro name hname
  exact h name (List.mem_filterMap.2 ⟨segment, hsegment, hname⟩)

/-! ## Elements -/

/-- Messages put together are rendered one behind the other. -/
@[simp] theorem render_append (before behind : Message) (values : Substitution) :
    render (before ++ behind) values = before.render values ++ behind.render values := by
  rw [render, List.map_append, String.join_append]
  rfl

/-- Messages put together have the placeholders of both. -/
@[simp] theorem placeholders_append (before behind : Message) :
    placeholders (before ++ behind) = before.placeholders ++ behind.placeholders :=
  List.filterMap_append

/-- A message of one segment is rendered as the segment. -/
theorem render_singleton (segment : Segment) (values : Substitution) :
    render [segment] values = segment.render values := by
  rw [render, List.map_singleton, String.join_cons, String.join_nil, String.append_empty]

end Message

/-- An element that is replaced changes the text of its own place. -/
theorem Template.map_render_set (values : Substitution) (template : Template) (index : Nat)
    (element : String) :
    ((Template.compile (template.set index element)).map (Segment.render values))
      = (template.compile.map (Segment.render values)).set index
          (Message.render (Template.compile [element]) values) := by
  have hone : Template.compile [element] = [Segment.ofElement element] := rfl
  rw [compile, List.map_set, List.map_set, hone, Message.render_singleton]
  rfl

/-- Rendering sees the placeholders of a message and nothing else of a substitution: two that agree
on these, where one may lack what is empty in the other, give the same texts, segment by segment and
as a whole. An element is compiled and rendered on its own, whatever key and whatever compiler it
goes through. What stands around it does not change when it is replaced, its text stands between the
texts before and behind it, and its placeholders between theirs. -/
theorem Message.render_sees_placeholders :
    (∀ (message : Message) (s t : Substitution),
      (∀ name ∈ message.placeholders, (s name).getD "" = (t name).getD "") →
        message.map (Segment.render s) = message.map (Segment.render t) ∧
          message.render s = message.render t) ∧
    ∀ (compiler : Compiler) (key : String) (values : Substitution),
      let compiled := fun template => (compiler.message key template).1
      let texts := fun template => (compiled template).map (Segment.render values)
      let text := fun template => (compiled template).render values
      (∀ template, text template = String.join (texts template)) ∧
      (∀ (template : Template) (index : Nat) (element : String),
        (index < template.length →
          (texts (template.set index element))[index]? = some (text [element])) ∧
        ∀ other, other ≠ index →
          (texts (template.set index element))[other]? = (texts template)[other]?) ∧
      (∀ before element behind,
        text (before ++ [element] ++ behind) = text before ++ text [element] ++ text behind) ∧
      ∀ before behind, (compiled (before ++ behind)).placeholders
        = (compiled before).placeholders ++ (compiled behind).placeholders := by
  constructor
  · intro message s t h
    have htexts := map_render_congr h
    exact ⟨htexts, congrArg String.join htexts⟩
  · intro compiler key values compiled texts text
    have hcompiled : ∀ before behind : Template,
        compiled (before ++ behind) = compiled before ++ compiled behind :=
      fun _ _ => List.map_append
    have hset : ∀ (template : Template) index element, texts (template.set index element)
        = (texts template).set index (text [element]) := Template.map_render_set values
    refine ⟨fun _ => rfl, ?_, ?_, ?_⟩
    · intro template index element
      rw [hset]
      constructor
      · intro hindex
        have hlength : (texts template).length = template.length := by
          rw [List.length_map]
          exact List.length_map _
        rw [List.getElem?_set_self (hlength ▸ hindex)]
      · intro other hother
        rw [List.getElem?_set_ne hother.symm]
    · intro before element behind
      show Message.render (compiled _) values = _
      rw [hcompiled, hcompiled, render_append, render_append]
    · intro before behind
      rw [hcompiled, placeholders_append]

/-- A message with a value that an object has as null and a list of pairs does not have, and whose
pairs have values that it does not name; and one of its elements replaced by a placeholder. -/
theorem Message.render_sees_placeholders_null :
    let template : Template := ["Hi,", "#$name", "$!", "#title"]
    let object := Substitution.ofObject
      (KeyMap.ofList [("name", .string "Eve"), ("title", .null), ("age", .bool true)])
    let pairs := Substitution.ofPairs [("name", "Eve"), ("name", "Bob"), ("city", "Rome")]
    let text := fun template => (Template.compile template).render pairs
    (∀ name ∈ template.compile.placeholders, (object name).getD "" = (pairs name).getD "") ∧
      template.compile.render object = text template ∧
      ((Template.compile (template.set 2 "#city")).map (Segment.render pairs))[1]?
        = (template.compile.map (Segment.render pairs))[1]? ∧
      text (["Hi,", "#$name"] ++ ["#city"] ++ ["#title"])
        = text ["Hi,", "#$name"] ++ text ["#city"] ++ text ["#title"] := by
  intro template object pairs text
  have hagree : ∀ name ∈ template.compile.placeholders,
      (object name).getD "" = (pairs name).getD "" := by
    decide +kernel
  obtain ⟨hvalues, helements⟩ := render_sees_placeholders
  obtain ⟨-, hreplaced, htexts, -⟩ := helements Compiler.new "hi" pairs
  exact ⟨hagree, (hvalues template.compile object pairs hagree).2,
    (hreplaced template 2 "#city").2 1 (by decide), htexts ["Hi,", "#$name"] "#city" ["#title"]⟩

end Phrasebook
