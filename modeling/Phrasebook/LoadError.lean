/-!
# Failures of loading

Why a dictionary could not be loaded. The cause is a value; `LoadError.message` words it.
-/

set_option autoImplicit false

namespace Phrasebook

/-- The cause of a failure, with its particulars in words. -/
inductive LoadError where
  /-- There is no dictionary in that place. -/
  | notFound (place : String)
  /-- The dictionary is there and cannot be read. -/
  | io (detail : String)
  /-- A server could not be reached, or broke off. -/
  | network (detail : String)
  /-- A server answered with a status other than success. -/
  | httpStatus (status : Nat) (detail : String)
  /-- The text is not a JSON document. -/
  | invalidJson (detail : String)
  /-- The document is not an object. -/
  | invalidShape (detail : String)
  /-- Texts in that encoding cannot be read. -/
  | unsupportedEncoding (label : String)
  /-- No dictionary can have that name. -/
  | invalidLocale (detail : String)
  deriving DecidableEq, Repr

namespace LoadError

/-- The failure in words. -/
def message : LoadError → String
  | notFound place => "Dictionary not found: " ++ place
  | io detail => "I/O error: " ++ detail
  | network detail => "Network error: " ++ detail
  | httpStatus status detail => "HTTP status " ++ toString status ++ ": " ++ detail
  | invalidJson detail => "Dictionary is not valid JSON: " ++ detail
  | invalidShape detail => "Invalid dictionary: " ++ detail
  | unsupportedEncoding label => "Unsupported encoding: " ++ label
  | invalidLocale detail => "Invalid locale: " ++ detail

end LoadError

end Phrasebook
