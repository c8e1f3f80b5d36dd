import IdentityBridge.ConfigurationError
import IdentityBridge.Pattern.Template

/-! What can go wrong in an authentication. -/

namespace IdentityBridge

inductive Fault where
  /-- There is a uid but no user name. -/
  | emptyName (uid : String)
  /-- The user name differs from the uid. -/
  | differentName (uid name : String)
  /-- A configured pattern cannot be read. -/
  | pattern (cause : Pattern.Refusal)
  /-- A replacement does not fit its pattern. -/
  | template (cause : Pattern.TemplateError)
  /-- A configured encoding is not one of texts. -/
  | foreignCharset
  /-- The name of a configured charset has a null character in it. -/
  | nullInCharset
  /-- A value means surrogates in the configured charset, which no text holds. -/
  | surrogates
  /-- A value has a whole number with more digits than are written. -/
  | longNumber
  /-- The fallback authenticator cannot be built. -/
  | brokenFallback
deriving DecidableEq, Repr

namespace Fault

/-- The report of an identity that cannot be mapped; other faults have none. -/
def report? : Fault → Option Report
  | emptyName uid => some {
      kind := .unsupportedMapping
      message := "Cannot work with an empty user name"
      details := { entries := [("uid", .text uid)] } }
  | differentName uid name => some {
      kind := .unsupportedMapping
      message := "Mapping a user uid to a different user name is not supported"
      details := { entries := [("uid", .text uid), ("name", .text name)] } }
  | _ => none

/-- The fault that comes of an error in a configuration which nobody sees to. Of the patterns that cannot
be read only malformed ones are seen to. -/
def ofError? : ConfigurationError → Option Fault
  | .invalidRolePattern _ cause | .invalidValuePattern _ cause =>
    if cause = .malformed then none else some (.pattern cause)
  | _ => none

end Fault

end IdentityBridge
