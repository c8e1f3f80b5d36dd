import IdentityBridge.Datum.Reader
import IdentityBridge.Platform
import IdentityBridge.Properties.File
import IdentityBridge.Text.Case

/-! Settings of an installation. They come as data of unknown kind, by field name, or from the
variables of an environment; fields of the wrong kind are refused and unknown ones ignored. -/

namespace IdentityBridge

/-- Why settings are refused. -/
inductive SettingsError where
  /-- A map in the environment is not readable. -/
  | unreadable
  /-- A field has a value of the wrong kind. -/
  | invalid
deriving DecidableEq, Repr

structure Settings where
  /-- The wiki of user profiles and of references that name none. -/
  mainWiki : String := "xwiki"
  /-- The space of user profiles and of references that name none. -/
  userSpace : String := "XWiki"
  properties : Table String String := .empty
  /-- The text of a property file, if there is one. -/
  propertyFile : Option String := none
  preferences : Table String String := .empty
  cookiePrefix : String := ""
  cookiePath : String := "/"
  cookieDomains : List String := []
  encryptionKey : Option String := none
  /-- The pattern of logout paths, if it is not the built-in one. -/
  logoutPage : Option String := none
  /-- The page names of groups that are split into shards. -/
  shardedGroups : List String := []
  platform : Platform := {}

namespace Settings

/-- The properties of the file, overridden by those given inline. -/
def loadedProperties (s : Settings) : Table String String :=
  match s.propertyFile with
  | some text => (Properties.File.read text).insertAll s.properties.entries
  | none => s.properties

def hasEncryptionKey (s : Settings) : Bool := s.encryptionKey.any (· ≠ "")

/-- The items of a comma separated text, trimmed, blank ones left out. -/
def commaSeparated (text : String) : List String :=
  ((Text.Cut.all "," text).map Text.trim).filter (· ≠ "")

/-! ### Fields of unknown kind -/

def textField (default : String) : Option Datum → Except SettingsError String
  | none => .ok default
  | some (.text s) => .ok s
  | some _ => .error .invalid

def optionalTextField : Option Datum → Except SettingsError (Option String)
  | none => .ok none
  | some .null => .ok none
  | some (.text s) => .ok (some s)
  | some _ => .error .invalid

def asText? : Datum → Except SettingsError String
  | .text s => .ok s
  | _ => .error .invalid

/-- A list of texts, or one comma separated text. -/
def listField : Option Datum → Except SettingsError (List String)
  | none => .ok []
  | some (.text s) => .ok (commaSeparated s)
  | some (.list items) => items.mapM asText?
  | some _ => .error .invalid

def mapField : Option Datum → Except SettingsError (Table String String)
  | none => .ok .empty
  | some (.record fields) => do
    return Table.ofList (← fields.mapM fun (key, value) => do return (key, ← asText? value))
  | some _ => .error .invalid

/-- Settings from the values of their fields. -/
def ofFields (fields : Table String Datum) : Except SettingsError Settings := do
  return {
    mainWiki := ← textField "xwiki" (fields.find? "main_wiki")
    userSpace := ← textField "XWiki" (fields.find? "user_space")
    properties := ← mapField (fields.find? "properties")
    preferences := ← mapField (fields.find? "preferences")
    cookiePrefix := ← textField "" (fields.find? "cookie_prefix")
    cookiePath := ← textField "/" (fields.find? "cookie_path")
    cookieDomains := ← listField (fields.find? "cookie_domains")
    encryptionKey := ← optionalTextField (fields.find? "encryption_key")
    logoutPage := ← optionalTextField (fields.find? "logout_page")
    shardedGroups := ← listField (fields.find? "sharded_groups") }

/-! ### Environments -/

/-- Stands before the field names in an environment, whatever their case. -/
def environmentPrefix : String := "trusted_auth_"

/-- The fields that an environment gives as texts. -/
def plainFields : List String := [
  "main_wiki", "user_space", "cookie_prefix", "cookie_path", "cookie_domains", "encryption_key",
  "logout_page", "sharded_groups"]

/-- The fields that an environment gives as JSON. -/
def structuredFields : List String := ["properties", "preferences"]

/-- The variables of an environment by their names in lower case. -/
def foldNames (environment : List (String × String)) : Table String String :=
  Table.ofList (environment.map fun (name, value) => (Text.lower name, value))

/-- The value of a field given as JSON; null leaves the field out. -/
def structuredValue (field text : String) : Except SettingsError (Option (String × Datum)) :=
  match Datum.read? text with
  | none => .error .unreadable
  | some .null => .ok none
  | some d => .ok (some (field, d))

/-- Settings from the variables of an environment. -/
def ofEnvironment (environment : List (String × String)) : Except SettingsError Settings := do
  let given := foldNames environment
  let value? (field : String) := given.find? (environmentPrefix ++ field)
  let plain := plainFields.filterMap fun field => (value? field).map fun v => (field, Datum.text v)
  let structured ← structuredFields.filterMapM fun field =>
    match value? field with
    | none => .ok none
    | some text => structuredValue field text
  ofFields (Table.ofList (plain ++ structured))

end Settings

end IdentityBridge
