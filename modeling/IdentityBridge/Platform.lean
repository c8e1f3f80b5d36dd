import IdentityBridge.Pattern.Reader.State
import IdentityBridge.Text.Charset

/-! What the platform brings along besides what is modelled here. Nothing is assumed of it. -/

namespace IdentityBridge

structure Platform where
  /-- The characters by their names. -/
  characters : Pattern.CharacterNames := Pattern.nameless
  /-- The charsets that are not listed. -/
  charsets : Text.CharsetNames := fun _ => none

end IdentityBridge
