import IdentityBridge.ConfigurationError
import IdentityBridge.Reference

/-! Formats of provenance entries: literal text and placeholders in braces, which stand for parts of
a group and for the role it comes from. A backslash makes the character after it literal. -/

namespace IdentityBridge.Provenance

inductive Placeholder where
  /-- The page name of the group. -/
  | groupName
  /-- The group without its wiki. -/
  | groupFullName
  /-- The group with its wiki. -/
  | group
  | role
deriving DecidableEq, Repr

namespace Placeholder

def name : Placeholder → String
  | groupName => "group.name"
  | groupFullName => "group.fullName"
  | group => "group"
  | role => "role"

def all : List Placeholder := [groupName, groupFullName, group, role]

def ofName? (name : String) : Option Placeholder := all.find? (·.name = name)

theorem ofName?_name (p : Placeholder) : ofName? p.name = some p := by cases p <;> decide

/-- What a placeholder stands for. -/
def value (g : Reference) (r : String) : Placeholder → String
  | groupName => g.name
  | groupFullName => g.localForm
  | group => g.serialize
  | role => r

end Placeholder

/-- A part of a format. -/
inductive Token where
  | literal (text : String)
  | slot (p : Placeholder)
deriving DecidableEq, Repr

abbrev Format := List Token

namespace Format

/-- A literal character, or a placeholder. -/
inductive Atom where
  | letter (c : Char)
  | slot (p : Placeholder)
deriving DecidableEq, Repr

/-- Why a text is no format. -/
inductive Fault where
  | unmatchedBrace
  | unknownPlaceholder (name : String)
deriving DecidableEq, Repr

/-- The atoms of a text. Between braces, `inside` holds the characters since the opening brace,
nearest first; there every character but the closing brace counts as it is. -/
def atoms (inside : Option (List Char)) : List Char → Except Fault (List Atom)
  | [] => if inside.isSome then .error .unmatchedBrace else .ok []
  | c :: rest =>
    match inside with
    | some name =>
      if c = '\x7d' then
        let name := String.ofList name.reverse
        match Placeholder.ofName? name with
        | some p => (atoms none rest).map (.slot p :: ·)
        | none =>
          -- A later unmatched brace does not matter here: the first fault counts.
          .error (.unknownPlaceholder name)
      else atoms (some (c :: name)) rest
    | none =>
      if c = '\x7b' then atoms (some []) rest
      else if c = '\\' then
        match rest with
        | [] => .ok []
        | escaped :: rest => (atoms none rest).map (.letter escaped :: ·)
      else (atoms none rest).map (.letter c :: ·)

/-- Put a character before the first literal. -/
def addLetter (c : Char) : Format → Format
  | .literal text :: rest => .literal (String.singleton c ++ text) :: rest
  | rest => .literal (String.singleton c) :: rest

/-- Join adjacent letters into literals. -/
def ofAtoms : List Atom → Format
  | [] => []
  | .letter c :: rest => addLetter c (ofAtoms rest)
  | .slot p :: rest => .slot p :: ofAtoms rest

/-- Read a format. -/
def read (text : String) : Except ConfigurationError Format :=
  match atoms none text.toList with
  | .ok as => .ok (ofAtoms as)
  | .error .unmatchedBrace => .error (.unmatchedBrace text)
  | .error (.unknownPlaceholder name) => .error (.unknownPlaceholder text name)

/-- Put a backslash before every backslash and opening brace. -/
def escape : List Char → List Char
  | [] => []
  | c :: rest =>
    if c = '\\' ∨ c = '\x7b' then '\\' :: c :: escape rest else c :: escape rest

def Token.print : Token → List Char
  | .literal text => escape text.toList
  | .slot p => '\x7b' :: p.name.toList ++ ['\x7d']

/-- Write a format. -/
def print (f : Format) : String := String.ofList (f.flatMap Token.print)

/-- The entry of a group and a role. -/
def render (g : Reference) (role : String) (f : Format) : String :=
  String.join <| f.map fun
    | .literal text => text
    | .slot p => p.value g role

end Format

end IdentityBridge.Provenance
