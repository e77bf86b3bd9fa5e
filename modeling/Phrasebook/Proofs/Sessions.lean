import Mathlib.Data.List.Induction
import Phrasebook.Proofs.Compiling

/-!
# Sessions with a dictionary

A session is a dictionary and the compiler that all its compilations go through. Whatever is done in
it, the compiler keeps what each compilation records, once and in order (`warnings_run`), and the
dictionary is compiled exactly when the last action that changed it was the compilation of a draft
(`catalog?_run`). Both come from what a single action does. A compilation may visit the entries of a
draft in any order, and in another one each time; `Visiting` is that choice.
-/

set_option autoImplicit false

namespace Phrasebook

/-! ## Compiling in some order -/

/-- The order in which the entries of a draft are visited. -/
structure Visiting where
  order : Draft → List (String × Template)
  perm : ∀ draft, (order draft).Perm draft.entries

namespace Visiting

/-- By ascending key. -/
def ascending : Visiting := ⟨KeyMap.entries, fun _ => List.Perm.refl _⟩

/-- By descending key. -/
def descending : Visiting := ⟨fun draft => draft.entries.reverse, fun _ => List.reverse_perm _⟩

end Visiting

namespace Dictionary

/-- Compiles a draft entry by entry and leaves any other dictionary as it is. -/
def compileIn (visiting : Visiting) (dictionary : Dictionary) (compiler : Compiler) :
    Dictionary × Compiler :=
  match dictionary with
  | .draft templates =>
    let (catalog, compiler) := Compiler.visit (KeyMap.empty, compiler) (visiting.order templates)
    (.compiled catalog, compiler)
  | other => (other, compiler)

/-- Compiling a draft gives its dictionary, and adds its warnings in the order of the visit. -/
theorem compileIn_draft (visiting : Visiting) (draft : Draft) (compiler : Compiler) :
    (Dictionary.draft draft).compileIn visiting compiler
      = (.compiled draft.compile.1,
          ⟨compiler.warnings ++ (Draft.compileEntries (visiting.order draft)).2⟩) := by
  have hcatalog : (Draft.compileEntries (visiting.order draft)).1 = draft.compile.1 :=
    (Draft.compileEntries_of_perm (visiting.perm draft)).trans
      (Draft.compileEntries_of_perm (List.Perm.refl _)).symm
  simp only [compileIn, Compiler.visit_empty, hcatalog]

/-- Compiling anything else changes nothing. -/
theorem compileIn_of_ne_draft {dictionary : Dictionary} (h : ∀ draft, dictionary ≠ .draft draft)
    (visiting : Visiting) (compiler : Compiler) :
    dictionary.compileIn visiting compiler = (dictionary, compiler) := by
  cases dictionary with
  | unloaded => rfl
  | draft templates => exact absurd rfl (h templates)
  | compiled catalog => rfl

/-- Compiling by ascending key is one of the choices. -/
theorem compile_eq_compileIn (dictionary : Dictionary) (compiler : Compiler) :
    dictionary.compile compiler = dictionary.compileIn .ascending compiler := by
  cases dictionary with
  | unloaded => rfl
  | draft templates =>
    rw [compileIn_draft]
    rfl
  | compiled catalog => rfl

/-- A second compilation, in whatever order, finds nothing to do. -/
theorem compileIn_compileIn (dictionary : Dictionary) (visiting other : Visiting)
    (compiler : Compiler) :
    (dictionary.compileIn visiting compiler).1.compileIn other
        (dictionary.compileIn visiting compiler).2
      = dictionary.compileIn visiting compiler := by
  cases dictionary with
  | unloaded => rfl
  | draft templates => rfl
  | compiled catalog => rfl

end Dictionary

/-! ## Actions -/

/-- A dictionary and the compiler that its compilations go through. -/
structure Session where
  dictionary : Dictionary
  compiler : Compiler
  deriving DecidableEq

/-- What may be done in a session. -/
inductive Action where
  | unload
  | load (draft : Draft)
  | compile (visiting : Visiting)
  /-- Compiles a copy of the dictionary, which itself stays as it is. -/
  | compileCopy (visiting : Visiting)
  /-- Takes the catalog out, if there is one, and leaves an unloaded dictionary behind. -/
  | takeOut
  /-- Compiles the template of a message beside the dictionary. -/
  | message (key : String) (template : Template)

/-- A compilation that has something to compile. -/
inductive Compilation where
  | entries (order : List (String × Template))
  | message (key : String) (template : Template)

/-- What a compiler that has compiled nothing records in the compilation. -/
def Compilation.warnings : Compilation → List Warning
  | entries order => (Compiler.visit (KeyMap.empty, Compiler.new) order).2.warnings
  | message key template => (Compiler.new.message key template).2.warnings

namespace Session

/-- An unloaded dictionary and a compiler that may have been used. -/
def start (compiler : Compiler) : Session := ⟨.unloaded, compiler⟩

/-- The session after an action. -/
def perform (session : Session) : Action → Session
  | .unload => { session with dictionary := .unloaded }
  | .load draft => { session with dictionary := .draft draft }
  | .compile visiting =>
    let (dictionary, compiler) := session.dictionary.compileIn visiting session.compiler
    ⟨dictionary, compiler⟩
  | .compileCopy visiting =>
    { session with compiler := (session.dictionary.compileIn visiting session.compiler).2 }
  | .takeOut => { session with dictionary := .unloaded }
  | .message key template => { session with compiler := (session.compiler.message key template).2 }

/-- The session after some actions. -/
def run (session : Session) (actions : List Action) : Session := actions.foldl perform session

/-- The compilation that an action performs. -/
def compilation? (session : Session) : Action → Option Compilation
  | .compile visiting | .compileCopy visiting =>
    match session.dictionary with
    | .draft draft => some (.entries (visiting.order draft))
    | _ => none
  | .message key template => some (.message key template)
  | _ => none

/-- The compilations that are performed in the course of some actions, in order. -/
def performed (session : Session) : List Action → List Compilation
  | [] => []
  | action :: rest =>
    (session.compilation? action).toList ++ (session.perform action).performed rest

/-- None of the actions changes the dictionary. -/
def Keeps (session : Session) : List Action → Prop
  | [] => True
  | action :: rest =>
    (session.perform action).dictionary = session.dictionary ∧
      (session.perform action).Keeps rest

/-- A run performs the first action and then the others. -/
@[simp] theorem run_cons (session : Session) (action : Action) (rest : List Action) :
    session.run (action :: rest) = (session.perform action).run rest := rfl

/-- A run of two rows of actions is two runs. -/
theorem run_append (session : Session) (before after : List Action) :
    session.run (before ++ after) = (session.run before).run after :=
  List.foldl_append

/-! ## The warnings -/

/-- The warnings of a draft that was compiled are those of its entries. -/
theorem warnings_entries (order : List (String × Template)) :
    (Compilation.entries order).warnings = (Draft.compileEntries order).2 := by
  simp only [Compilation.warnings, Compiler.visit_empty]
  exact List.nil_append _

/-- Compiling adds the warnings of what is compiled by it, if anything is. -/
theorem warnings_compileIn (session : Session) (visiting : Visiting) :
    (session.dictionary.compileIn visiting session.compiler).2.warnings
      = session.compiler.warnings
        ++ (session.compilation? (.compile visiting)).toList.flatMap Compilation.warnings := by
  unfold compilation?
  cases session.dictionary with
  | unloaded => exact (List.append_nil _).symm
  | draft templates =>
    rw [Dictionary.compileIn_draft]
    show _ = _ ++ ([Compilation.entries (visiting.order templates)].flatMap _)
    rw [List.flatMap_singleton, warnings_entries]
  | compiled catalog => exact (List.append_nil _).symm

/-- An action records what its compilation records, and nothing if it performs none. -/
theorem warnings_perform (session : Session) (action : Action) :
    (session.perform action).compiler.warnings
      = session.compiler.warnings
        ++ (session.compilation? action).toList.flatMap Compilation.warnings := by
  cases action with
  | unload => exact (List.append_nil _).symm
  | load draft => exact (List.append_nil _).symm
  | compile visiting => exact session.warnings_compileIn visiting
  | compileCopy visiting => exact session.warnings_compileIn visiting
  | takeOut => exact (List.append_nil _).symm
  | message key template =>
    show _ = _ ++ ([Compilation.message key template].flatMap _)
    rw [List.flatMap_singleton]
    rfl

/-- Some actions record what their compilations record, one behind the other. -/
theorem warnings_run (session : Session) (actions : List Action) :
    (session.run actions).compiler.warnings
      = session.compiler.warnings
        ++ (session.performed actions).flatMap Compilation.warnings := by
  induction actions generalizing session with
  | nil => exact (List.append_nil _).symm
  | cons action rest ih =>
    unfold performed
    rw [run_cons, ih, warnings_perform, List.flatMap_append, List.append_assoc]

/-! ## The catalog -/

/-- A run that keeps the dictionary ends with it. -/
theorem dictionary_of_keeps {session : Session} {actions : List Action}
    (h : session.Keeps actions) : (session.run actions).dictionary = session.dictionary := by
  induction actions generalizing session with
  | nil => rfl
  | cons action rest ih => exact (ih h.2).trans h.1

/-- A run keeps the dictionary when all but the last action do and the last one does. -/
theorem keeps_append_singleton {session : Session} {actions : List Action} {action : Action}
    (h : session.Keeps actions)
    (hlast : ((session.run actions).perform action).dictionary = (session.run actions).dictionary) :
    session.Keeps (actions ++ [action]) := by
  induction actions generalizing session with
  | nil => exact ⟨hlast, trivial⟩
  | cons other rest ih => exact ⟨h.1, ih h.2 hlast⟩

/-- An action that changes the dictionary and leaves a compiled one behind is the compilation of a
draft. -/
theorem eq_compile_of_changes {session : Session} {action : Action} {catalog : Catalog}
    (hchanges : (session.perform action).dictionary ≠ session.dictionary)
    (hcatalog : (session.perform action).dictionary.catalog? = some catalog) :
    ∃ visiting draft, action = .compile visiting ∧ session.dictionary = .draft draft ∧
      catalog = draft.compile.1 := by
  cases action with
  | unload => cases hcatalog
  | load draft => cases hcatalog
  | compileCopy visiting => exact absurd rfl hchanges
  | takeOut => cases hcatalog
  | message key template => exact absurd rfl hchanges
  | compile visiting =>
    have hperform : (session.perform (.compile visiting)).dictionary
        = (session.dictionary.compileIn visiting session.compiler).1 := rfl
    rw [hperform] at hchanges hcatalog
    cases hdictionary : session.dictionary with
    | unloaded =>
      rw [hdictionary] at hchanges
      exact absurd rfl hchanges
    | draft draft =>
      rw [hdictionary, Dictionary.compileIn_draft] at hcatalog
      exact ⟨visiting, draft, rfl, rfl, (Option.some.inj hcatalog).symm⟩
    | compiled catalog =>
      rw [hdictionary] at hchanges
      exact absurd rfl hchanges

/-- Of the actions, the compilation of the draft is the last that changed the dictionary. -/
def LastCompiled (session : Session) (actions : List Action) (draft : Draft) : Prop :=
  ∃ before visiting after, actions = before ++ .compile visiting :: after ∧
    (session.run before).dictionary = .draft draft ∧
    (session.run (before ++ [.compile visiting])).Keeps after

/-- The draft that was compiled last is there in its compiled form. -/
theorem catalog?_of_lastCompiled {session : Session} {actions : List Action} {draft : Draft}
    (h : session.LastCompiled actions draft) :
    (session.run actions).dictionary.catalog? = some draft.compile.1 := by
  obtain ⟨before, visiting, after, rfl, hdraft, hkeeps⟩ := h
  have hcompiled : (session.run (before ++ [.compile visiting])).dictionary
      = .compiled draft.compile.1 := by
    rw [run_append]
    show ((session.run before).dictionary.compileIn visiting (session.run before).compiler).1 = _
    rw [hdraft, Dictionary.compileIn_draft]
  rw [List.append_cons, run_append, dictionary_of_keeps hkeeps, hcompiled]
  rfl

/-- By induction on the actions from their end: the last of them either keeps the dictionary, and
then an earlier one has compiled it, or it is the compilation itself. -/
theorem lastCompiled_of_catalog? {compiler : Compiler} {actions : List Action} {catalog : Catalog}
    (h : ((start compiler).run actions).dictionary.catalog? = some catalog) :
    ∃ draft, (start compiler).LastCompiled actions draft ∧ catalog = draft.compile.1 := by
  induction actions using List.reverseRecOn with
  | nil => cases h
  | append_singleton actions action ih =>
    rw [run_append] at h
    by_cases hkeeps : (((start compiler).run actions).perform action).dictionary
        = ((start compiler).run actions).dictionary
    · have hearlier : ((start compiler).run actions).dictionary.catalog? = some catalog :=
        hkeeps ▸ h
      obtain ⟨draft, ⟨before, visiting, after, rfl, hdraft, hafter⟩, hcatalog⟩ := ih hearlier
      refine ⟨draft, ⟨before, visiting, after ++ [action], ?_, hdraft, ?_⟩, hcatalog⟩
      · rw [List.append_assoc, List.cons_append]
      · apply keeps_append_singleton hafter
        rwa [← run_append, ← List.append_cons]
    · obtain ⟨visiting, draft, rfl, hdraft, hcatalog⟩ := eq_compile_of_changes hkeeps h
      exact ⟨draft, ⟨actions, visiting, [], rfl, hdraft, trivial⟩, hcatalog⟩

/-- What is there in compiled form is the draft that was compiled last. -/
theorem catalog?_run (compiler : Compiler) (actions : List Action) (catalog : Catalog) :
    ((start compiler).run actions).dictionary.catalog? = some catalog ↔
      ∃ draft, (start compiler).LastCompiled actions draft ∧ catalog = draft.compile.1 := by
  constructor
  · exact lastCompiled_of_catalog?
  · rintro ⟨draft, hlast, rfl⟩
    exact catalog?_of_lastCompiled hlast

/-! ## All compilations of a session -/

/-- The order of the visit does not change the warnings under a key. -/
theorem filter_compileIn (draft : Draft) (visiting other : Visiting) (key : String) :
    (Draft.compileEntries (visiting.order draft)).2.filter (·.key == key)
      = (Draft.compileEntries (other.order draft)).2.filter (·.key == key) := by
  rw [Draft.filter_compileEntries_of_perm (visiting.perm draft),
    Draft.filter_compileEntries_of_perm (other.perm draft)]

/-- A dictionary that is no draft passes through a compilation unchanged, and nothing is recorded. A
draft comes to the same catalog as with a compiler that has compiled nothing, and what is recorded
are the warnings of that compiler, those of each key in the same order; so a second compilation does
nothing.

After any actions on an unloaded dictionary, a catalog can be taken out exactly when the last action
that changed the dictionary was the compilation of a draft, and it is the catalog of that draft. The
warnings are then those of the compilations that were performed, one behind the other. -/
theorem compilations_recorded_once :
    (∀ (dictionary : Dictionary) (compiler : Compiler),
      dictionary.compile compiler = dictionary.compileIn .ascending compiler) ∧
    (∀ (dictionary : Dictionary) (visiting : Visiting) (compiler : Compiler),
      (∀ draft, dictionary ≠ .draft draft) →
        dictionary.compileIn visiting compiler = (dictionary, compiler)) ∧
    (∀ (draft : Draft) (visiting other : Visiting) (compiler : Compiler),
      let fresh := (Dictionary.draft draft).compileIn other Compiler.new
      ∃ catalog added, fresh.1 = .compiled catalog ∧
        (Dictionary.draft draft).compileIn visiting compiler
          = (.compiled catalog, ⟨compiler.warnings ++ added⟩) ∧
        added.Perm fresh.2.warnings ∧
        ∀ key, added.filter (·.key == key) = fresh.2.warnings.filter (·.key == key)) ∧
    (∀ (dictionary : Dictionary) (visiting other : Visiting) (compiler : Compiler),
      let once := dictionary.compileIn visiting compiler
      once.1.compileIn other once.2 = once) ∧
    ∀ (compiler : Compiler) (actions : List Action),
      let session := (start compiler).run actions
      (∀ catalog, session.dictionary.catalog? = some catalog ↔
        ∃ draft, (start compiler).LastCompiled actions draft ∧ catalog = draft.compile.1) ∧
      session.compiler.warnings
        = compiler.warnings ++ ((start compiler).performed actions).flatMap
            Compilation.warnings := by
  refine ⟨Dictionary.compile_eq_compileIn, ?_, ?_, Dictionary.compileIn_compileIn, ?_⟩
  · intro dictionary visiting compiler h
    exact Dictionary.compileIn_of_ne_draft h visiting compiler
  · intro draft visiting other compiler fresh
    have hfresh : fresh
        = (.compiled draft.compile.1, ⟨(Draft.compileEntries (other.order draft)).2⟩) :=
      Dictionary.compileIn_draft other draft Compiler.new
    refine ⟨draft.compile.1, (Draft.compileEntries (visiting.order draft)).2, ?_,
      Dictionary.compileIn_draft visiting draft compiler, ?_, ?_⟩
    · rw [hfresh]
    · rw [hfresh]
      apply Draft.compileEntries_warnings_perm
      exact (visiting.perm draft).trans (other.perm draft).symm
    · rw [hfresh]
      exact filter_compileIn draft visiting other
  · intro compiler actions session
    exact ⟨catalog?_run compiler actions, (start compiler).warnings_run actions⟩

/-- A session in which a draft is compiled as a copy and then itself, against the order of its keys,
with a message between and with two more compilations that find nothing to do. -/
theorem compilations_recorded_once_copied :
    let draft : Draft := KeyMap.ofList [("a", ["#$", "hi"]), ("b", ["~"])]
    let actions : List Action := [.compile .ascending, .load draft, .compileCopy .descending,
      .message "m" ["", "$"], .compile .descending, .compile .ascending, .compileCopy .ascending]
    let session := (start Compiler.new).run actions
    session.compiler.warnings
        = [⟨"b", 0, "~"⟩, ⟨"a", 0, "#$"⟩, ⟨"m", 1, "$"⟩, ⟨"b", 0, "~"⟩, ⟨"a", 0, "#$"⟩] ∧
      session.dictionary.catalog? = some draft.compile.1 ∧
      (∃ compiled, (start Compiler.new).LastCompiled actions compiled ∧
        draft.compile.1 = compiled.compile.1) ∧
      session.dictionary.compileIn .ascending session.compiler
        = (session.dictionary, session.compiler) := by
  intro draft actions session
  obtain ⟨-, hidle, -, -, hrun⟩ := compilations_recorded_once
  obtain ⟨htaken, hwarnings⟩ := hrun Compiler.new actions
  have hcatalog : session.dictionary.catalog? = some draft.compile.1 := by decide +kernel
  refine ⟨hwarnings.trans (by decide +kernel), hcatalog, (htaken _).1 hcatalog, ?_⟩
  apply hidle
  intro other hdraft
  rw [hdraft] at hcatalog
  cases hcatalog

end Session

end Phrasebook
