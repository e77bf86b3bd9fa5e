import Phrasebook.Dictionary.Catalog

/-!
# The life of a dictionary

A dictionary is unloaded, then a draft, then a catalog. A `Compiler` takes it from the second state
to the third and keeps the warnings of everything it has compiled; a dictionary in another state
passes through it unchanged.
-/

set_option autoImplicit false

namespace Phrasebook

/-- The warnings of everything compiled so far, in order. -/
structure Compiler where
  warnings : List Warning
  deriving DecidableEq, Repr

/-- A dictionary of one locale. -/
inductive Dictionary where
  | unloaded
  | draft (templates : Draft)
  | compiled (catalog : Catalog)
  deriving DecidableEq

namespace Compiler

/-- A compiler that has compiled nothing. -/
def new : Compiler := ⟨[]⟩

/-- Compiles the template of a message. -/
def message (c : Compiler) (key : String) (template : Template) : Message × Compiler :=
  (template.compile, ⟨c.warnings ++ template.warnings key⟩)

/-- Compiles a draft. -/
def draft (c : Compiler) (d : Draft) : Catalog × Compiler :=
  (d.compile.1, ⟨c.warnings ++ d.compile.2⟩)

end Compiler

namespace Dictionary

/-- Compiles a draft and leaves any other dictionary as it is. -/
def compile (d : Dictionary) (c : Compiler) : Dictionary × Compiler :=
  match d with
  | .draft templates =>
    let (catalog, c) := c.draft templates
    (.compiled catalog, c)
  | other => (other, c)

/-- Whether the dictionary is compiled. -/
def isCompiled : Dictionary → Bool
  | .compiled _ => true
  | _ => false

/-- The catalog of a compiled dictionary. -/
def catalog? : Dictionary → Option Catalog
  | .compiled catalog => some catalog
  | _ => none

end Dictionary

end Phrasebook
