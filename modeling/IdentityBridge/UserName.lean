import IdentityBridge.Table
import IdentityBridge.Text.Case
import IdentityBridge.Text.Cut

/-! Names of user profiles: the name that was asserted, brought to one case, with parts of it
replaced one after another. -/

namespace IdentityBridge.UserName

inductive CaseStyle where
  | lowercase
  | uppercase
  /-- The first character in upper case, the rest in lower case. -/
  | titlecase
  | none
deriving DecidableEq, Repr

namespace CaseStyle

def name : CaseStyle → String
  | lowercase => "lowercase"
  | uppercase => "uppercase"
  | titlecase => "titlecase"
  | none => "none"

def all : List CaseStyle := [lowercase, uppercase, titlecase, none]

def ofName? (name : String) : Option CaseStyle := all.find? (·.name = name)

/-- Bring a text to a case. A title of one character is in upper case. -/
def fold (style : CaseStyle) (cs : List Char) : List Char :=
  match style with
  | lowercase => Text.lowerChars cs
  | uppercase => Text.upperChars cs
  | titlecase =>
    match cs with
    | [] => []
    | c :: rest => Text.upperChars [c] ++ Text.lowerChars rest
  | none => cs

end CaseStyle

/-- Apply a style to a name. -/
def normalizeCase (style : CaseStyle) (name : String) : String :=
  String.ofList (style.fold name.toList)

/-- Apply replacements in the order of the table, each to the result of those before it. -/
def replaceParts (replacements : Table String String) (name : String) : String :=
  replacements.entries.foldl (fun name (old, new) => Text.Cut.replace old new name) name

/-- The name of the profile page of an asserted name. -/
def normalize (style : CaseStyle) (replacements : Table String String) (name : String) : String :=
  replaceParts replacements (normalizeCase style name)

end IdentityBridge.UserName
