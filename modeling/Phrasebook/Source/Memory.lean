import Phrasebook.Fetching
import Phrasebook.KeyMap

/-!
# Dictionaries in memory

A source that holds the texts of its locales and counts how often it is asked, in all and for each
locale. Whether it has the locale makes no difference to the counts.
-/

set_option autoImplicit false

namespace Phrasebook

/-- How often a source has been asked. -/
structure Attempts where
  total : Nat
  perLocale : KeyMap Nat
  deriving DecidableEq

namespace Attempts

/-- Not yet. -/
def none : Attempts := ⟨0, KeyMap.empty⟩

/-- How often the locale has been asked for. -/
def of (attempts : Attempts) (locale : String) : Nat := (attempts.perLocale.get? locale).getD 0

/-- Once more. -/
def record (attempts : Attempts) (locale : String) : Attempts :=
  ⟨attempts.total + 1, attempts.perLocale.insert locale (attempts.of locale + 1)⟩

/-- Recording an attempt adds one to its locale and leaves the others alone. -/
theorem of_record (attempts : Attempts) (locale other : String) :
    (attempts.record locale).of other
      = if other = locale then attempts.of locale + 1 else attempts.of other := by
  simp only [record, of, KeyMap.get?_insert]
  split <;> rfl

end Attempts

/-- The texts of some locales. -/
structure Memory where
  texts : KeyMap String

namespace Memory

/-- Where a source in memory claims to keep the dictionary of a locale. -/
def describe (locale : String) : String := "memory:" ++ locale ++ ".json"

/-- The text of a locale. -/
def answer (memory : Memory) (locale : String) : Answer :=
  match memory.texts.get? locale with
  | some text => .ok text
  | none => .error (.notFound (describe locale))

/-- Counts the question and answers it. -/
def fetch (memory : Memory) (locale : String) : StateM Attempts Answer := do
  modify (·.record locale)
  pure (memory.answer locale)

end Memory

end Phrasebook
