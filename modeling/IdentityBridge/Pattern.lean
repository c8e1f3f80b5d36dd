import IdentityBridge.Pattern.Reader
import IdentityBridge.Pattern.Run
import IdentityBridge.Pattern.Template

/-! Patterns over texts: reading them, matching whole texts or their starts, searching, splitting and
replacing. -/

namespace IdentityBridge

/-- A pattern that has been read. -/
structure Pattern where
  node : Pattern.Node
  groupCount : Nat
  names : List (String × Nat)
deriving DecidableEq, Repr

namespace Pattern

/-- Read a pattern, in which characters may be written by their names. -/
def read (text : String) (characters : CharacterNames := nameless) : Except Refusal Pattern :=
  (Reader.whole characters text).map fun (node, s) => ⟨node, s.groups.length, s.names⟩

/-- The pattern that a text is read as; nothing for a text that is none. -/
def read? (text : String) (characters : CharacterNames := nameless) : Option Pattern :=
  (read text characters).toOption

/-- The text of a group in a match. -/
def groupText? (p : Progress) (index : Nat) : Option String :=
  (p.groupText? index).map String.ofList

/-- The text of a named group in a match; nothing too if the pattern has no group of this name. -/
def namedText? (pattern : Pattern) (p : Progress) (name : String) : Option String :=
  (pattern.names.lookup name).bind (groupText? p)

/-- A match of the whole text. -/
def matchWhole? (pattern : Pattern) (text : String) : Option Progress :=
  pattern.node.run (fun p => if p.place.after.isEmpty then some p else none)
    ⟨Place.start text.toList, []⟩

/-- A match of some start of the text. -/
def matchStart? (pattern : Pattern) (text : String) : Option Progress :=
  pattern.node.run some ⟨Place.start text.toList, []⟩

/-- Where a match starts, and how far it has come at its end. -/
structure Found where
  start : Place
  finish : Progress

/-- Step over one character after another, `length` of them, until there is a match. -/
def searchOn (pattern : Pattern) : Nat → Place → Option Found
  | 0, _ => none
  | length + 1, place =>
    match pattern.node.run some ⟨place, []⟩ with
    | some finish => some ⟨place, finish⟩
    | none =>
      match place.advance? with
      | some (_, place) => searchOn pattern length place
      | none => none

/-- The first match from a place on. -/
def searchFrom (pattern : Pattern) (place : Place) : Option Found :=
  searchOn pattern (place.after.length + 1) place

/-- The first match from a place on that is not empty at that place. -/
def searchPast (pattern : Pattern) (place : Place) : Option Found :=
  let moved (p : Progress) : Option Progress :=
    if p.place.after.length = place.after.length then none else some p
  match pattern.node.run moved ⟨place, []⟩ with
  | some finish => some ⟨place, finish⟩
  | none => place.advance?.bind fun (_, place) => searchFrom pattern place

/-- The pieces of a text between matches, from the place where the last match ended. After each
piece come the groups of the match that ends it. -/
def splitFrom (pattern : Pattern) : Nat → Bool → Place → List (Option String)
  | 0, _, place => [some (String.ofList place.after)]
  | fuel + 1, wasEmpty, place =>
    match if wasEmpty then pattern.searchPast place else pattern.searchFrom place with
    | none => [some (String.ofList place.after)]
    | some found =>
      let groups := (List.range pattern.groupCount).map fun i =>
        groupText? found.finish (i + 1)
      some (String.ofList (place.textUpTo found.start)) :: groups ++
        splitFrom pattern fuel (found.start = found.finish.place) found.finish.place

/-- Split a text at every match; a group that has not matched gives nothing. -/
def split (pattern : Pattern) (text : String) : List (Option String) :=
  let place := Place.start text.toList
  splitFrom pattern (2 * place.after.length + 2) false place

/-- Replace the first match by a template. -/
def replaceFirst (pattern : Pattern) (template text : String) : Except TemplateError String := do
  let pieces ← Template.read pattern.groupCount pattern.names template
  let start := Place.start text.toList
  match pattern.searchFrom start with
  | none => return text
  | some found =>
    let groupText (index : Nat) : List Char :=
      if index = 0 then found.start.textUpTo found.finish.place
      else (found.finish.groupText? index).getD []
    return String.ofList <|
      start.textUpTo found.start ++ Template.expand groupText pieces ++ found.finish.place.after

end Pattern

end IdentityBridge
