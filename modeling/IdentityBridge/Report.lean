import IdentityBridge.Datum
import IdentityBridge.Table

/-! Error reports: the kind of an error, its message, a code for programs and named details. The
kinds form a tree; a report shows its details after the message. -/

namespace IdentityBridge

/-- The kinds of errors, from the most general to the most special. -/
inductive ErrorKind where
  | general
  | authentication
  | unsupportedMapping
  | userSynchronization
  | persistence
  | encryption
  | configuration
  | unsafeRule
  | valueFormat
  | unknownComponent
  | directory
  | groupQuery
  | documentStore
deriving DecidableEq, Repr

namespace ErrorKind

/-- The kind that a kind is a special case of. -/
def parent? : ErrorKind → Option ErrorKind
  | general => none
  | authentication | persistence | configuration | directory => some general
  | unsupportedMapping | userSynchronization => some authentication
  | encryption => some persistence
  | unsafeRule | valueFormat | unknownComponent => some configuration
  | groupQuery | documentStore => some directory

/-- The depth of a kind in the tree. -/
def depth : ErrorKind → Nat
  | general => 0
  | authentication | persistence | configuration | directory => 1
  | _ => 2

theorem depth_parent {k p : ErrorKind} (h : k.parent? = some p) : p.depth < k.depth := by
  cases k <;> simp [parent?] at h <;> subst h <;> decide

/-- A kind and all that it is a special case of, nearest first. -/
def lineage (k : ErrorKind) : List ErrorKind :=
  match _h : k.parent? with
  | none => [k]
  | some p => k :: lineage p
termination_by k.depth
decreasing_by exact depth_parent ‹_›

/-- The name under which a kind is reported. -/
def name : ErrorKind → String
  | general => "TrustedAuthError"
  | authentication => "AuthenticationError"
  | unsupportedMapping => "UnsupportedIdentityMappingError"
  | userSynchronization => "UserSynchronizationError"
  | persistence => "PersistenceStoreError"
  | encryption => "EncryptionError"
  | configuration => "ConfigurationError"
  | unsafeRule => "InvalidDynamicRoleConfigurationError"
  | valueFormat => "InvalidValueFormatError"
  | unknownComponent => "UnknownComponentError"
  | directory => "DirectoryError"
  | groupQuery => "GroupQueryError"
  | documentStore => "DocumentStoreError"

def all : List ErrorKind := [
  general, authentication, unsupportedMapping, userSynchronization, persistence, encryption,
  configuration, unsafeRule, valueFormat, unknownComponent, directory, groupQuery, documentStore]

def ofName? (name : String) : Option ErrorKind := all.find? (·.name = name)

end ErrorKind

/-- An error as it is shown to people and programs. -/
structure Report where
  kind : ErrorKind
  message : String
  code? : Option String := none
  details : Table String Datum := .empty

namespace Report

/-- The code of an error: the given one, or else the name of its kind. -/
def code (r : Report) : String :=
  match r.code? with
  | some code => if code = "" then r.kind.name else code
  | none => r.kind.name

/-- The message, followed by the details if there are any. -/
def text (r : Report) : String :=
  if r.details.isEmpty then r.message
  else
    let details := r.details.entries.map fun (key, value) => key ++ "=" ++ value.asText
    r.message ++ " (" ++ ", ".intercalate details ++ ")"

/-- The body of a response that tells a client about the error. -/
def response (r : Report) : Datum :=
  .record [("error", .record [
    ("code", .text r.code),
    ("message", .text r.message),
    ("details", .record r.details.entries),
    ("type", .text r.kind.name)])]

end Report

end IdentityBridge
