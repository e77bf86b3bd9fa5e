import Phrasebook.Shelf
import Phrasebook.Web.Target

/-!
# The web service

Two resources on a shelf of dictionaries: the list of its locales, and one message of one of them
with the values of the query spliced in. `respond` answers a request by its method and its target.
-/

set_option autoImplicit false

namespace Phrasebook.Web

open Json (Value)

/-! ## Responses -/

/-- What a response carries. -/
inductive Body where
  | nothing
  | text (s : String)
  | json (v : Value)
  deriving Repr

/-- A response. -/
structure Response where
  status : Nat
  body : Body
  deriving Repr

/-- What the list says about a locale. -/
structure Status where
  locale : String
  ready : Bool
  messages : Nat
  warnings : Nat
  error : Option String
  deriving DecidableEq, Repr

/-- The state of a locale on the shelf. -/
def Status.ofOutcome (shelf : Shelf) (outcome : Outcome) : Status where
  locale := outcome.locale
  ready := outcome.isOk
  messages := ((shelf.catalog? outcome.locale).map KeyMap.size).getD 0
  warnings := outcome.warnings.length
  error := outcome.error.map LoadError.message

/-- The states of all locales of the shelf, in order. -/
def statuses (shelf : Shelf) : List Status := shelf.outcomes.map (Status.ofOutcome shelf)

/-- The document of a status. -/
def Status.toJson (s : Status) : Value :=
  .object [
    ("locale", .string s.locale),
    ("ready", .bool s.ready),
    ("messages", .number (.integer s.messages)),
    ("warnings", .number (.integer s.warnings)),
    ("error", match s.error with
      | some message => .string message
      | none => .null)]

/-- A rendered message, with the locale it was rendered in. -/
structure Rendering where
  locale : String
  key : String
  rendered : String
  deriving DecidableEq, Repr

/-- Why a message cannot be rendered. -/
inductive NotFound where
  | locale (name : String)
  | key (name : String)
  deriving DecidableEq, Repr

/-- The reason in words. -/
def NotFound.message : NotFound → String
  | .locale name => "Locale '" ++ name ++ "' is not loaded"
  | .key name => "Unknown message key '" ++ name ++ "'"

/-- Renders one message. -/
def renderMessage (shelf : Shelf) (locale key : String) (values : Substitution) :
    Except NotFound Rendering :=
  match shelf.catalog? locale with
  | none => .error (.locale locale)
  | some catalog =>
    if catalog.contains key then
      let locale := Locale.normalize locale
      .ok ⟨locale, key, shelf.render locale key values⟩
    else .error (.key key)

/-- The response to a rendering. -/
def Response.ofRendering : Except NotFound Rendering → Response
  | .ok r =>
    ⟨200, .json (.object [
      ("locale", .string r.locale),
      ("key", .string r.key),
      ("rendered", .string r.rendered)])⟩
  | .error e => ⟨404, .json (.object [("error", .string e.message)])⟩

/-- The response to a request for a resource. -/
def get (shelf : Shelf) (query : List Char) : Route → Response
  | .locales => ⟨200, .json (.array ((statuses shelf).map Status.toJson))⟩
  | .message locale key =>
    match pathText? locale, pathText? key with
    | some locale, some key =>
      .ofRendering (renderMessage shelf locale key (queryValues query))
    | _, _ => ⟨400, .text "the path is not UTF-8"⟩

/-- The response to a request. Asking for the options of anything succeeds; a resource can be got
with its body or without. -/
def respond (shelf : Shelf) (method target : String) : Response :=
  let (path, query) := splitTarget target
  if method == "OPTIONS" then ⟨200, .nothing⟩
  else match Route.ofPath? path with
    | none => ⟨404, .nothing⟩
    | some route =>
      if method == "GET" then get shelf query route
      else if method == "HEAD" then { get shelf query route with body := .nothing }
      else ⟨405, .nothing⟩

end Phrasebook.Web
