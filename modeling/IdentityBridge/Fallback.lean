import IdentityBridge.Exchange
import IdentityBridge.Fault
import IdentityBridge.Text.Cut

/-! Fallback authenticators, which are asked when no user is found. One is configured by a path that
names a module and something in it. A path that leads to nothing usable counts as none. -/

namespace IdentityBridge

structure Fallback where
  name : String
  /-- The written form of the user of a request, if there is one. -/
  check : Request → Option String

namespace Fallback

/-- What a module has under a name. -/
inductive Entry where
  | fallback (f : Fallback)
  /-- Something that no authenticator can be built from. -/
  | unusable
  /-- An authenticator whose building fails. -/
  | broken

/-- Modules by name, each with its entries by name. -/
abbrev Modules := List (String × List (String × Entry))

/-- The module and the entry that a path names. They are separated by the first colon, or by the last
dot if there is no colon. -/
def cutPath (path : String) : String × String :=
  match Text.Cut.first ':' path with
  | some parts => parts
  | none => (Text.Cut.last '.' path).getD ("", path)

/-- The authenticator under a path. -/
def ofPath? (modules : Modules) (path : String) : Except Fault (Option Fallback) :=
  let (module, name) := cutPath path
  match (modules.lookup module).bind fun entries => entries.lookup name with
  | some (.fallback f) => .ok (some f)
  | some .broken => .error .brokenFallback
  | some .unusable | none => .ok none

end Fallback

end IdentityBridge
