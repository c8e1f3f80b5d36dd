import IdentityBridge.Pattern
import IdentityBridge.Properties
import IdentityBridge.Provenance.Format

/-! Provenance fields: the property of a page where the groups created for users are recorded, each
with the role it comes from. A field is configured by seven values; missing ones are inherited from
a general configuration, and that one from the defaults. -/

namespace IdentityBridge.Provenance

/-- The seven values that configure a field. -/
structure FieldValues where
  page : String := ""
  /-- The class of the object that holds the property, any class if empty. -/
  className : String := ""
  /-- The number of the object in its class, the first one if missing. -/
  objectNumber : Option Int := none
  propertyName : String := ""
  /-- Stands between entries. -/
  separator : String := "|"
  /-- Matches the entries; its groups `group` and `role` hold the recorded group and role. -/
  valuePattern : String := "^(?P<group>[^=]+)=[\\s\\S]*"
  valueFormat : String := "\x7bgroup.fullName\x7d=\x7brole\x7d"
deriving DecidableEq, Repr

/-- A field with its format and its pattern read. -/
structure Field where
  values : FieldValues
  /-- The characters that the pattern may name. -/
  characters : Pattern.CharacterNames
  format : Format
  pattern : Pattern
  read_format : Format.read values.valueFormat = .ok format
  read_pattern : Pattern.read values.valuePattern characters = .ok pattern

namespace Field

/-- Read format and pattern, the format first. -/
def ofValues (values : FieldValues) (characters : Pattern.CharacterNames := Pattern.nameless) :
    Except ConfigurationError Field :=
  match hf : Format.read values.valueFormat with
  | .error e => .error e
  | .ok format =>
    match hp : Pattern.read values.valuePattern characters with
    | .error cause => .error (.invalidValuePattern values.valuePattern cause)
    | .ok pattern => .ok ⟨values, characters, format, pattern, hf, hp⟩

/-- The object number that a text gives; an empty or missing text gives the inherited one. -/
def objectNumber (owner : String) (inherited : Option Int) :
    Option String → Except ConfigurationError (Option Int)
  | none => .ok inherited
  | some text =>
    if text = "" then .ok inherited
    else
      match Text.Integer.read text with
      | some n => .ok (some n)
      | none => .error (.invalidObjectNumber text owner)

/-- The values of a field under a property prefix. There is no field without page and property name. -/
def readValues (p : Properties) (owner : String) (inherited : FieldValues) :
    Except ConfigurationError (Option FieldValues) :=
  let page := p.getD (owner ++ "page") inherited.page
  let propertyName := p.getD (owner ++ "propertyName") inherited.propertyName
  if page = "" ∧ propertyName = "" then .ok none
  else do
    let objectNumber ← objectNumber owner inherited.objectNumber (p.get? (owner ++ "objectNumber"))
    return some {
      page, propertyName, objectNumber
      className := p.getD (owner ++ "className") inherited.className
      separator := p.getD (owner ++ "separator") inherited.separator
      valuePattern := p.getD (owner ++ "valueRegex") inherited.valuePattern
      valueFormat := p.getD (owner ++ "valueFormat") inherited.valueFormat }

/-- Read a field under a property prefix; missing values come from the parent or the defaults. -/
def read (p : Properties) (owner : String) (parent : Option Field) :
    Except ConfigurationError (Option Field) := do
  match ← readValues p owner ((parent.map (·.values)).getD {}) with
  | none => return none
  | some values => return some (← ofValues values p.platform.characters)

/-- A prefix without page and property name describes no field. -/
theorem read_eq_none {p : Properties} {owner : String} (hp : p.getD (owner ++ "page") "" = "")
    (hn : p.getD (owner ++ "propertyName") "" = "") : read p owner none = .ok none := by
  rw [read, readValues, if_pos ⟨hp, hn⟩]
  rfl

/-- The entry that records a group and a role. -/
def entry (f : Field) (group : Reference) (role : String) : String := f.format.render group role

/-- The non-empty entries of a field text. -/
def entries (f : Field) (text : String) : List String :=
  (if f.values.separator = "" then [text] else Text.Cut.all f.values.separator text).filter (· ≠ "")

/-- Whether a recorded group is the given one: its page name, or an end of its written form. -/
def namesGroup (group : Reference) (recorded : String) : Bool :=
  recorded = group.name || recorded.toList.isSuffixOf group.serialize.toList

/-- Whether an entry records a group and a role. The pattern must match all of it; a part that the
pattern does not tell counts as equal. -/
def records (f : Field) (group : Reference) (role entry : String) : Bool :=
  match f.pattern.matchWhole? entry with
  | none => false
  | some found =>
    (f.pattern.namedText? found "group").all (namesGroup group) &&
      (f.pattern.namedText? found "role").all (· = role)

/-- Whether a field text already records a group and a role. -/
def hasEntry (f : Field) (group : Reference) (role text : String) : Bool :=
  (f.entries text).any (f.records group role)

/-- The values in words. -/
def describe (f : Field) : String :=
  let v := f.values
  let number := match v.objectNumber with
    | some n => toString n
    | none => "None"
  "page: " ++ v.page ++ ", class name: " ++ v.className ++ ", object number: " ++ number ++
    ", property name: " ++ v.propertyName ++ ", separator: " ++ v.separator ++
    ", value regex: " ++ v.valuePattern ++ ", value format: " ++ v.valueFormat

end Field

end IdentityBridge.Provenance
