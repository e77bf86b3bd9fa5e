import Phrasebook.Dictionary.Catalog
import Phrasebook.Fetching
import Phrasebook.Locale

/-!
# Loading a dictionary

A locale is checked before anything is asked of a source, so only names that can name a dictionary
are ever asked for; the text that comes back is read as a draft.
-/

set_option autoImplicit false

namespace Phrasebook

/-- Loads the draft of a locale. -/
def Draft.load (locale : String) : Fetching (Except LoadError Draft) :=
  match Locale.check locale with
  | .error e => .done (.error e)
  | .ok () => .ask locale fun answer => .done (answer.bind Draft.ofText)

/-- What `Draft.load` ends with when the source has the given answers. -/
theorem Draft.value_load (answers : String → Answer) (locale : String) :
    (Draft.load locale).value answers
      = (Locale.check locale).bind fun _ => (answers locale).bind Draft.ofText := by
  unfold Draft.load
  cases Locale.check locale with
  | error e => rfl
  | ok u => rfl

end Phrasebook
