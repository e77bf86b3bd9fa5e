import Phrasebook.Loading

/-!
# Runs of fetching programs

A source is steady when what it answers for a locale does not depend on what it has been asked
before, whatever state of its own it keeps. Against a steady source a run of a program is known from
its answers alone (`run_of_steady`): it ends with the program's `value`, and it leaves the source as
if it had been asked for the program's `asked` locales one after the other. `recorded` is the steady
source that keeps exactly those locales.
-/

set_option autoImplicit false

namespace Phrasebook

namespace Fetching

variable {α σ : Type}

/-- The source gives these answers in every state. -/
def Steady (fetch : String → StateM σ Answer) (answers : String → Answer) : Prop :=
  ∀ locale s, ((fetch locale).run s).1 = answers locale

/-- The state of a source that has been asked for the locales in turn. -/
def afterAsking (fetch : String → StateM σ Answer) (locales : List String) (s : σ) : σ :=
  locales.foldl (fun s locale => ((fetch locale).run s).2) s

/-- No question changes nothing. -/
@[simp] theorem afterAsking_nil (fetch : String → StateM σ Answer) (s : σ) :
    afterAsking fetch [] s = s := rfl

/-- A row of questions asks the first and then the others. -/
@[simp] theorem afterAsking_cons (fetch : String → StateM σ Answer) (locale : String)
    (locales : List String) (s : σ) :
    afterAsking fetch (locale :: locales) s
      = afterAsking fetch locales ((fetch locale).run s).2 := rfl

/-- Two rows of questions are asked one after the other. -/
theorem afterAsking_append (fetch : String → StateM σ Answer) (before behind : List String)
    (s : σ) :
    afterAsking fetch (before ++ behind) s
      = afterAsking fetch behind (afterAsking fetch before s) :=
  List.foldl_append

/-- Against a steady source a program ends with its value and asks what it asks, whatever the state
of the source. -/
theorem run_of_steady {fetch : String → StateM σ Answer} {answers : String → Answer}
    (h : Steady fetch answers) (p : Fetching α) (s : σ) :
    (p.run fetch).run s = (p.value answers, afterAsking fetch (p.asked answers) s) := by
  induction p generalizing s with
  | done a => rfl
  | ask locale resume ih =>
    have hanswer : ((fetch locale).run s).1 = answers locale := h locale s
    have hstep : ((ask locale resume).run fetch).run s
        = ((resume ((fetch locale).run s).1).run fetch).run ((fetch locale).run s).2 := rfl
    rw [hstep, hanswer, ih]
    rfl

/-! ## Sources that keep a record -/

/-- The source that gives the answers and keeps the locales it is asked for, in order. -/
def recorded (answers : String → Answer) (locale : String) : StateM (List String) Answer := do
  modify (· ++ [locale])
  pure (answers locale)

/-- A source that keeps a record gives the same answers all the time. -/
theorem recorded_steady (answers : String → Answer) : Steady (recorded answers) answers :=
  fun _ _ => rfl

/-- The record of a row of questions is the row. -/
theorem afterAsking_recorded (answers : String → Answer) (locales seen : List String) :
    afterAsking (recorded answers) locales seen = seen ++ locales := by
  induction locales generalizing seen with
  | nil => simp
  | cons locale locales ih =>
    rw [afterAsking_cons]
    exact (ih _).trans (List.append_assoc _ _ _)

/-- A recorded run gives the value of a program and adds the locales it asks for to the record. -/
theorem run_recorded (answers : String → Answer) (p : Fetching α) (seen : List String) :
    (p.run (recorded answers)).run seen = (p.value answers, seen ++ p.asked answers) := by
  rw [run_of_steady (recorded_steady answers), afterAsking_recorded]

/-- A recorded run of two programs is a run of the second behind the record of the first. -/
theorem run_recorded_bind {β : Type} (answers : String → Answer) (p : Fetching α)
    (next : α → Fetching β) (seen : List String) :
    ((p.bind next).run (recorded answers)).run seen
      = ((next (p.value answers)).run (recorded answers)).run (seen ++ p.asked answers) := by
  rw [run_recorded, run_recorded, value_bind, asked_bind, List.append_assoc]

end Fetching

/-! ## Loading -/

/-- Whether the locale can name a dictionary. -/
def Locale.isAccepted (locale : String) : Bool := (Locale.check locale).isOk

/-- A locale is asked for when it can name a dictionary, and then once. -/
theorem Draft.asked_load (answers : String → Answer) (locale : String) :
    (Draft.load locale).asked answers = [locale].filter Locale.isAccepted := by
  unfold Draft.load
  rw [List.filter_cons, List.filter_nil, Locale.isAccepted]
  cases Locale.check locale with
  | error e => rfl
  | ok u => rfl

end Phrasebook
