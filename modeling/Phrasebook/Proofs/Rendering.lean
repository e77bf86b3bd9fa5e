import Phrasebook.Dictionary.Lifecycle
import Phrasebook.Proofs.Marks

/-!
# Rendering a compiled template

A template is compiled once and rendered often, and the space behind an element is written in two
different places: into the text of a literal when it is compiled, behind the value of a placeholder
when it is rendered. `Element.meaning` says in one pass what an element adds to a text, without
segments and without kinds. `render_compiled_template` says that compiling and rendering amount to
that, element by element.
-/

set_option autoImplicit false

namespace Phrasebook

/-- What an element adds to a text under the given values. An empty element is a space. Marks with
nothing behind them are nothing. Anything else is the text behind the marks, or the value it names
if there is a `#` among them, and a space unless there is a `$`. -/
def Element.meaning (values : Substitution) (element : String) : String :=
  let marks := markRun element.toList
  let content := String.ofList (afterMarks element.toList)
  if element = "" then " "
  else if content = "" then ""
  else (if '#' ∈ marks then (values content).getD "" else content)
    ++ (if '$' ∈ marks then "" else " ")

namespace Segment

/-- A content with a kind writes itself or its value, and a space if the kind has one. -/
theorem render_ofContent (values : Substitution) (kind : Kind) (content : String) :
    (ofContent kind content).render values =
      (if kind.dynamic then (values content).getD "" else content)
        ++ (if kind.spaced then " " else "") := by
  obtain ⟨dynamic, spaced⟩ := kind
  cases dynamic <;> cases spaced <;> simp [ofContent, render]

/-- The segment of an element writes what the element means. -/
theorem render_ofElement (values : Substitution) (element : String) :
    (ofElement element).render values = Element.meaning values element := by
  by_cases hne : element = ""
  · subst hne
    rw [ofElement, Element.read_empty]
    rfl
  · by_cases hafter : Element.afterMarks element.toList = []
    · rw [ofElement, Element.read_of_afterMarks_eq_nil hne hafter, render_ofContent]
      simp [Element.meaning, hne, hafter]
    · rw [ofElement, Element.read_of_afterMarks_ne_nil hafter, render_ofContent]
      simp [Element.meaning, hne, hafter, Element.kindOfRun]

end Segment

/-- Compiling a template and rendering the message writes what the elements mean, one behind the
other, whatever key the template is compiled under and whatever has been compiled before. -/
theorem Compiler.render_compiled_template (compiler : Compiler) (key : String)
    (template : Template) (values : Substitution) :
    (compiler.message key template).1.render values =
      String.join (template.map (Element.meaning values)) := by
  have hsegments : Segment.render values ∘ Segment.ofElement = Element.meaning values :=
    funext fun element => Segment.render_ofElement values element
  rw [Compiler.message, Message.render, Template.compile, List.map_map, hsegments]

/-- A repeated mark is content, and so is whatever stands behind a `~`. -/
example : ["Hi,", "##tag", "$~#", "#$", ""].map (Element.meaning fun name => some name)
    = ["Hi, ", "#tag ", "#", "", " "] := by decide

end Phrasebook
