import Phrasebook.Address
import Phrasebook.Substitution

/-!
# Targets of requests

What a request asks for: the target names a resource by its path and gives values by its query. Both
are percent-encoded, and they are taken apart before they are decoded, so an encoded separator
separates nothing.
-/

set_option autoImplicit false

namespace Phrasebook.Web

/-- The path and the query of a target, which may be a whole address. -/
def splitTarget (target : String) : List Char × List Char :=
  let chars := target.toList
  let (path, query) :=
    Address.pathAndQuery (if chars.head? == some '/' then chars else Address.behindServer chars)
  (path, query.getD [])

/-! ## Paths -/

/-- A resource. The parts of the path are still encoded. -/
inductive Route where
  | locales
  | message (locale key : List Char)
  deriving DecidableEq, Repr

/-- The resource at a path. A locale may be empty, a key may not. -/
def Route.ofPath? (path : List Char) : Option Route :=
  match (Text.split '/' path).map String.ofList with
  | ["", "api", "locales"] => some .locales
  | ["", "api", "render", locale, key] =>
    if key.isEmpty then none else some (.message locale.toList key.toList)
  | _ => none

/-- The text of a part of a path, unless its bytes are no text. -/
def pathText? (part : List Char) : Option String :=
  match Text.Utf8.decode (Text.Percent.decode (Text.Utf8.encode part)) with
  | .ok chars => some (String.ofList chars)
  | .error _ => none

/-! ## Queries -/

/-- The text of a part of a query, in which a plus stands for a space. -/
def queryText (part : List Char) : String :=
  String.ofList (Text.Utf8.decodeLossy (Text.Percent.decode
    (Text.Utf8.encode (part.map fun c => if c = '+' then ' ' else c))))

/-- The pairs of a query. Empty parts are passed over, and a part without an equals sign has an
empty value. -/
def queryPairs (query : List Char) : List (String × String) :=
  ((Text.split '&' query).filter (!·.isEmpty)).map fun part =>
    match Text.cut? '=' part with
    | some (name, value) => (queryText name, queryText value)
    | none => (queryText part, "")

/-- The values that a query gives. -/
def queryValues (query : List Char) : Substitution :=
  Substitution.ofMap (KeyMap.ofList (queryPairs query))

end Phrasebook.Web
