import Phrasebook.LoadError

/-!
# Programs that fetch

A `Fetching` program asks for the texts of locales, one at a time, and goes on with each answer.
What answers is not part of it: `Fetching.run` runs a program against any source, in any monad, and
`Fetching.asked` lists the locales that it asks for under given answers.
-/

set_option autoImplicit false

namespace Phrasebook

/-- The text of a dictionary, or why there is none. -/
abbrev Answer := Except LoadError String

/-- A program that ends with a value, or asks for a locale and goes on with the answer. -/
inductive Fetching (α : Type) where
  | done (value : α)
  | ask (locale : String) (resume : Answer → Fetching α)

namespace Fetching

variable {α β : Type}

/-- Goes on with a second program behind the first. -/
def bind : Fetching α → (α → Fetching β) → Fetching β
  | done value, next => next value
  | ask locale resume, next => ask locale fun answer => (resume answer).bind next

/-- One program goes on with the result of another. -/
instance : Monad Fetching where
  pure := done
  bind := bind

/-- Runs a program against a source. -/
def run {m : Type → Type} [Monad m] (fetch : String → m Answer) : Fetching α → m α
  | done value => pure value
  | ask locale resume => do
    let answer ← fetch locale
    (resume answer).run fetch

/-- The value of a program whose questions have fixed answers. -/
def value (answers : String → Answer) : Fetching α → α
  | done a => a
  | ask locale resume => (resume (answers locale)).value answers

/-- The locales that a program asks for when its questions have fixed answers, in order. -/
def asked (answers : String → Answer) : Fetching α → List String
  | done _ => []
  | ask locale resume => locale :: (resume (answers locale)).asked answers

/-- A program that is done asks for nothing. -/
@[simp] theorem run_done {m : Type → Type} [Monad m] (fetch : String → m Answer) (a : α) :
    (done a).run fetch = pure a := rfl

/-- What comes of two programs in turn is what the second makes of the result of the first. -/
@[simp] theorem value_bind (answers : String → Answer) (p : Fetching α) (next : α → Fetching β) :
    (p.bind next).value answers = (next (p.value answers)).value answers := by
  induction p with
  | done a => rfl
  | ask locale resume ih => exact ih _

/-- Two programs in turn ask for what the first asks for, and then the second. -/
@[simp] theorem asked_bind (answers : String → Answer) (p : Fetching α) (next : α → Fetching β) :
    (p.bind next).asked answers
      = p.asked answers ++ (next (p.value answers)).asked answers := by
  induction p with
  | done a => rfl
  | ask locale resume ih => exact congrArg (locale :: ·) (ih _)

/-- Against a source that only answers, a run is the value. -/
theorem run_id (answers : String → Answer) (p : Fetching α) :
    p.run (m := Id) answers = p.value answers := by
  induction p with
  | done a => rfl
  | ask locale resume ih => exact ih _

end Fetching

end Phrasebook
