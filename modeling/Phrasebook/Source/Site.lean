import Phrasebook.Address
import Phrasebook.KeyMap
import Phrasebook.Source.Remote

/-!
# Sites in memory

A site stands in for a server: it holds the replies to the paths it knows and remembers the paths it
was asked for. A path without a reply is not found; a reply of `none` closes the connection.
-/

set_option autoImplicit false

namespace Phrasebook

/-- The replies of a server by path. -/
structure Site where
  replies : KeyMap (Option Reply)

namespace Site

/-- The reply to a path. -/
def reply (site : Site) (path : String) : Option Reply :=
  match site.replies.get? path with
  | some reply => reply
  | none => some ⟨404, none, some []⟩

/-- Remembers the path and replies to it. An address that names no server is never asked for. -/
def get (site : Site) (url : String) : StateM (List String) (Option Reply) := do
  match Address.target? url with
  | some target =>
    modify (· ++ [target])
    pure (site.reply target)
  | none => pure none

end Site

end Phrasebook
