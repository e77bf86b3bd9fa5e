import Phrasebook.Address.Numeric
import Phrasebook.Domain
import Phrasebook.Text.Percent

/-!
# Servers

The server that an address names: who asks, with an at sign behind, then the host, then the number
of a port with a colon in front. Only the host has to be there. `server?` writes the host and the
port in one way, whichever way they were given.
-/

set_option autoImplicit false

namespace Phrasebook.Address

/-- The host and the port, without who asks. -/
def behindUser (server : List Char) : List Char :=
  (server.reverse.takeWhile (· != '@')).reverse

/-- The host and the port. A colon between square brackets belongs to the host. -/
def splitPort (isBracketed : Bool) : List Char → List Char × Option (List Char)
  | [] => ([], none)
  | c :: rest =>
    if c = ':' ∧ !isBracketed then ([], some rest)
    else
      let (host, port) := splitPort (c == '[' || isBracketed && c != ']') rest
      (c :: host, port)

/-- The port of servers that give none. -/
def usualPort : Nat := 80

/-- What is written of a port, which is a number of sixteen bits or left open. The usual one is not
written. -/
def port? (s : List Char) : Option (List Char) :=
  match digits? 10 s with
  | some n =>
    if 65536 ≤ n then none
    else if s.isEmpty ∨ n = usualPort then some []
    else some (':' :: Nat.toDigits 10 n)
  | none => none

/-- The host of a name or of a number with dots. -/
def namedHost? (name : List Char) : Option (List Char) :=
  match Domain.spell? name with
  | some host =>
    if host.isEmpty || !Domain.isName host then none
    else if endsInNumber host then (dotted? host).map writeDotted
    else some (Domain.written host)
  | none => none

/-- A host is a number between square brackets, and otherwise a name or a number with dots. Names
may be percent-encoded. -/
def host? (s : List Char) : Option (List Char) :=
  match s with
  | '[' :: rest =>
    if rest.getLast? = some ']' then
      (grouped? rest.dropLast).map fun groups => '[' :: writeGrouped groups ++ [']']
    else none
  | _ =>
    match Text.Utf8.decode (Text.Percent.decode (Text.Utf8.encode s)) with
    | .ok name => namedHost? name
    | .error _ => none

/-- The host and the port of a server, as they are written. -/
def server? (s : List Char) : Option (List Char) :=
  let (host, port) := splitPort false (behindUser s)
  match host? host, port? (port.getD []) with
  | some host, some port => some (host ++ port)
  | _, _ => none

end Phrasebook.Address
