import IdentityBridge.Platform
import IdentityBridge.Table
import IdentityBridge.Text.Blank
import IdentityBridge.Text.Case
import IdentityBridge.Text.Cut
import IdentityBridge.Text.Escaped

/-! Properties in two layers. A property is looked up in the preferences first and then in the
configuration, each under its own prefix; an empty preference counts as missing. Texts of
properties can be read as truth values, lists, maps and one-to-many maps. -/

namespace IdentityBridge

/-- Two layers of named texts, on a platform that they are read on. -/
structure Properties where
  configuration : Table String String := .empty
  preferences : Table String String := .empty
  /-- Stands before a name in the configuration, with a dot between. -/
  configurationPrefix : String := ""
  /-- Stands before a name in the preferences, with an underscore between. -/
  preferencePrefix : String := ""
  platform : Platform := {}

namespace Properties

/-- A name under a prefix, which is left out with its separator when empty. -/
def qualify (before separator name : String) : String :=
  if before = "" then name else before ++ separator ++ name

def preference? (p : Properties) (name : String) : Option String :=
  (p.preferences.find? (qualify p.preferencePrefix "_" name)).filter (· ≠ "")

def configured? (p : Properties) (name : String) : Option String :=
  p.configuration.find? (qualify p.configurationPrefix "." name)

/-- The text of a property. -/
def get? (p : Properties) (name : String) : Option String :=
  match p.preference? name with
  | some value => some value
  | none => p.configured? name

def getD (p : Properties) (name default : String) : String := (p.get? name).getD default

/-- The texts, in lower case and trimmed, that mean yes. -/
def affirmations : List String := ["true", "yes", "on", "1", "y", "t"]

def isAffirmation (value : String) : Bool := affirmations.contains (Text.lower (Text.trim value))

/-- A property read as a truth value. -/
def flag (p : Properties) (name : String) (default : Bool) : Bool :=
  match p.get? name with
  | some value => isAffirmation value
  | none => default

/-- A property read as a list. -/
def list? (p : Properties) (name separator : String) : Option (List String) :=
  (p.get? name).map (Text.Escaped.split · separator)

/-- The key and the value of an entry of a map, if it has an equal sign. -/
def mapEntry? (entry : String) : Option (String × String) := Text.Cut.first '=' entry

/-- A property read as a map; entries without equal sign are passed over. -/
def map? (p : Properties) (name separator : String) (lowerKeys : Bool := false) :
    Option (Table String String) :=
  (p.list? name separator).map fun entries =>
    Table.ofList <| (entries.filterMap mapEntry?).map fun (key, value) =>
      (if lowerKeys then Text.lower key else key, value)

/-- The two sides of an entry of a one-to-many map; the left one may not be empty. -/
def pairEntry? (entry : String) : Option (String × String) :=
  (Text.Cut.first '=' entry).filter (·.1 ≠ "")

/-- Collect the values of each key, without repetition, in order of first occurrence. -/
def group (pairs : List (String × String)) : Table String (List String) :=
  pairs.foldl (fun t (key, value) =>
    let values := (t.find? key).getD []
    t.insert key (if value ∈ values then values else values ++ [value])) .empty

/-- A property read as a one-to-many map. With `left` the left sides are the keys, otherwise the
right sides. -/
def groups? (p : Properties) (name separator : String) (left : Bool := true) :
    Option (Table String (List String)) :=
  (p.list? name separator).map fun entries =>
    group <| (entries.filterMap pairEntry?).map fun (first, second) =>
      if left then (first, second) else (second, first)

end Properties

end IdentityBridge
