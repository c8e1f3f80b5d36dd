import IdentityBridge.Fault
import IdentityBridge.Rule
import IdentityBridge.Settings
import IdentityBridge.UserName

/-! The configuration of authentication: what the properties of an installation say, read as values,
with defaults where they say nothing. Rules are loaded all or none: one that is invalid or unsafe
disables them all. A pattern that is refused without being malformed is a fault of its own. -/

namespace IdentityBridge

structure Configuration where
  settings : Settings
  properties : Properties

namespace Configuration

/-- The configuration that settings make. -/
def ofSettings (settings : Settings) : Configuration where
  settings
  properties := {
    configuration := settings.loadedProperties
    preferences := settings.preferences
    configurationPrefix := "authentication.trusted"
    preferencePrefix := "trustedauth"
    platform := settings.platform }

def listSeparator : String := "|"

/-! ### Components -/

def adapterHint (c : Configuration) : String := c.properties.getD "adapterHint" "headers"

def vaultHint (c : Configuration) : String := c.properties.getD "persistenceStoreHint" "session"

/-- A remembered user is taken without asking for an assertion. -/
def trustsVault (c : Configuration) : Bool := c.properties.flag "isPersistenceStoreTrusted" false

/-- A remembered user is kept when nothing is asserted. -/
def keepsOnMissing (c : Configuration) : Bool :=
  c.properties.flag "isPersistenceStoreTrustedOnMissingAuthentication" false

/-- The seconds for which a cookie stays, minus one if nothing readable is said. -/
def vaultTtl (c : Configuration) : Int :=
  match c.properties.get? "persistenceStoreTTL" with
  | some text => (Text.Integer.read (Text.trim text)).getD (-1)
  | none => -1

/-! ### Users and groups -/

def caseStyle (c : Configuration) : UserName.CaseStyle :=
  match c.properties.get? "userProfileCase" with
  | some name => (UserName.CaseStyle.ofName? (Text.lower (Text.trim name))).getD .lowercase
  | none => .lowercase

def nameReplacements (c : Configuration) : Table String String :=
  (c.properties.map? "userProfileReplacements" listSeparator).getD .empty

/-- The asserted property for each fact of a profile. -/
def factMappings (c : Configuration) : Table String String :=
  (c.properties.map? "propertiesMapping" listSeparator).getD .empty

/-- The roles that grant membership, for each group as it is written. -/
def groupMappings (c : Configuration) : Table String (List String) :=
  (c.properties.groups? "groupsMapping" listSeparator).getD .empty

def mainWiki (c : Configuration) : String := c.settings.mainWiki

def userSpace (c : Configuration) : String := c.settings.userSpace

/-- Read a reference, completed from the main wiki and the user space. -/
def resolve (c : Configuration) (text : String) : Reference :=
  Reference.resolve text c.mainWiki c.userSpace

/-! ### Fallback and logout -/

/-- Whether there is no other authentication when this one finds no user. -/
def isAuthoritative (c : Configuration) : Bool := c.properties.flag "isAuthoritative" false

/-- The path that names the fallback authenticator, if one is configured. -/
def fallbackPath? (c : Configuration) : Option String :=
  (c.properties.get? "fallbackAuthenticator").filter (· ≠ "")

/-- Matches the paths that log out unless another pattern is configured. -/
def defaultLogoutPattern : String := "(/|/[^/]+/|/wiki/[^/]+/)logout/*"

def logoutPattern (c : Configuration) : String :=
  match c.settings.logoutPage with
  | some pattern => if pattern = "" then defaultLogoutPattern else pattern
  | none => defaultLogoutPattern

/-! ### Rules -/

/-- The characters that patterns may name. -/
def characters (c : Configuration) : Pattern.CharacterNames := c.properties.platform.characters

/-- The names of the rules, in the order in which they are tried. -/
def ruleNames (c : Configuration) : List String :=
  (c.properties.list? "dynamicRole.configurations" listSeparator).getD []

/-- Stands before the names of the properties of a rule. -/
def ruleOwner (name : String) : String := "dynamicRole.configuration." ++ name ++ "."

/-- Stands before the names of the properties of a provenance field. -/
def fieldOwner : String := "addGroupToField."

/-- The provenance field that rules inherit from. -/
def generalField (c : Configuration) : Except ConfigurationError (Option Provenance.Field) :=
  Provenance.Field.read c.properties fieldOwner none

/-- What the properties say of a rule. -/
def ruleValues (c : Configuration) (name : String) (field : Option Provenance.Field) : RuleValues :=
  let value (key : String) : String := c.properties.getD (ruleOwner name ++ key) ""
  { name, field
    characters := c.characters
    rolePrefix := value "rolePrefix"
    roleSuffix := value "roleSuffix"
    rolePattern := value "roleRegex"
    replacement := value "replacement"
    groupPrefix := value "groupPrefix"
    groupSuffix := value "groupSuffix"
    autoCreate := c.properties.flag (ruleOwner name ++ "autocreate") true }

/-- Load a rule, which must be safe. -/
def loadRule (c : Configuration) (general : Option Provenance.Field) (name : String) :
    Except ConfigurationError Rule := do
  let field ← Provenance.Field.read c.properties (ruleOwner name ++ fieldOwner) general
  match Rule.ofValues (c.ruleValues name field) with
  | .error cause => throw (.invalidRolePattern name cause)
  | .ok rule => if rule.isUnsafe then throw (.unsafeRule name) else return rule

/-- Load all rules. Without rules the general field does not matter. -/
def loadRules (c : Configuration) : Except ConfigurationError (List Rule) :=
  if c.ruleNames = [] then .ok []
  else do
    let general ← c.generalField
    c.ruleNames.mapM (c.loadRule general)

/-- The rules in the order in which they are tried, if they can be loaded. -/
def rules? (c : Configuration) : Option (List Rule) := c.loadRules.toOption

/-- What comes of asking for the rules. Those that cannot be loaded are disabled, unless that is for an
error which nobody sees to. -/
def rules (c : Configuration) : Except Fault (Option (List Rule)) :=
  match c.loadRules with
  | .ok rules => .ok (some rules)
  | .error e =>
    match Fault.ofError? e with
    | some fault => .error fault
    | none => .ok none

end Configuration

end IdentityBridge
