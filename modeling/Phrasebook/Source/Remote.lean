import Phrasebook.Fetching
import Phrasebook.Text.Encoding

/-!
# Dictionaries on a server

The dictionary of a locale is the document `<locale>.json` below a base address. How a document is
requested is a parameter of `Remote.fetch`, which says what an answer of the server amounts to: a
text on success, and otherwise the status with whatever the server says about it. The body of an
answer is read in the encoding that its content type names, as far as the client knows charsets.
-/

set_option autoImplicit false

namespace Phrasebook

/-- The answer of a server. The content type is there if it was sent and is plain text. Without a
body the connection broke off before its end. -/
structure Reply where
  status : Nat
  contentType : Option String
  body : Option (List UInt8)
  deriving DecidableEq, Repr

namespace Reply

/-- Whether the request succeeded. -/
def isSuccess (reply : Reply) : Bool := decide (200 ≤ reply.status ∧ reply.status < 300)

/-- Whether the status is one that ends an exchange. Below 200 only the switch to another protocol
does. -/
def isFinal (reply : Reply) : Bool :=
  reply.status == 101 || decide (200 ≤ reply.status ∧ reply.status ≤ 999)

/-- Statuses whose answers have no body, whatever is sent behind them. -/
def isBodiless (reply : Reply) : Bool := [101, 204, 304].contains reply.status

/-- The text of the body, unless the connection broke off. -/
def text? (charsets : Text.Charsets) (reply : Reply) : Option String :=
  if reply.isBodiless then some ""
  else reply.body.map fun bytes =>
    String.ofList (Text.decodeAnnounced (charsets.encodingOf reply.contentType) bytes)

end Reply

/-- A server, by the address below which the dictionaries are. -/
structure Remote where
  base : String
  deriving DecidableEq, Repr

namespace Remote

/-- The server with that address, with or without slashes at its end. -/
def ofAddress (address : String) : Remote :=
  ⟨String.ofList (address.toList.reverse.dropWhile (· == '/')).reverse⟩

/-- The address of the dictionary of a locale. -/
def urlFor (remote : Remote) (locale : String) : String :=
  remote.base ++ "/" ++ locale ++ ".json"

/-- What the answer of a server amounts to. -/
def answer (charsets : Text.Charsets) (remote : Remote) (locale : String) :
    Option Reply → Answer
  | none => .error (.network ("no answer from " ++ remote.urlFor locale))
  | some reply =>
    if reply.isSuccess then
      match reply.text? charsets with
      | some text => .ok text
      | none => .error (.network ("no whole answer from " ++ remote.urlFor locale))
    else if reply.isFinal then
      .error (.httpStatus reply.status
        (remote.urlFor locale ++ ": " ++ (reply.text? charsets).getD "Unknown error"))
    else .error (.network ("no final answer from " ++ remote.urlFor locale))

/-- Requests the dictionary of a locale. -/
def fetch {m : Type → Type} [Monad m] (charsets : Text.Charsets)
    (get : String → m (Option Reply)) (remote : Remote) (locale : String) : m Answer := do
  let reply ← get (remote.urlFor locale)
  pure (remote.answer charsets locale reply)

end Remote

end Phrasebook
