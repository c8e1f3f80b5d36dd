import IdentityBridge.Pattern.Node
import IdentityBridge.Pattern.Token

/-! The state of reading a pattern: the tokens to come, the switches in force and the groups opened so
far. Reading stops at the first thing that is amiss and tells its kind. -/

namespace IdentityBridge.Pattern

/-- Why a text is no pattern. -/
inductive Refusal where
  | malformed
  /-- The whole pattern is switched to both repertoires. -/
  | conflictingRepertoires
  /-- A bound of a loop has more digits than are read. -/
  | longBound
  /-- A bound of a loop exceeds the greatest one. -/
  | excessiveBound
deriving DecidableEq, Repr

/-- The characters that a platform knows by their names. -/
abbrev CharacterNames := String → Option Char

/-- No character has a name. -/
def nameless : CharacterNames := fun _ => none

namespace Reader

/-- Switches that change the meaning of a pattern or of a part of it. -/
structure Flags where
  caseless : Bool := false
  /-- Lines count for the anchors at start and end. -/
  multiline : Bool := false
  /-- The dot stands for line feeds too. -/
  dotAll : Bool := false
  /-- Blanks and comments are passed over. -/
  verbose : Bool := false
  repertoire : Repertoire := .unicode
  /-- Loops are refused. -/
  loopless : Bool := false
deriving DecidableEq, Repr

structure State where
  rest : List Token
  /-- Whether a single backslash follows the tokens. It is met when the token before it is taken. -/
  dangling : Bool := false
  characters : CharacterNames
  flags : Flags := {}
  /-- The letters of the switches for the whole pattern. -/
  switched : List Char := []
  /-- The groups opened so far, with the width of those that are closed. -/
  groups : List (Option Width) := []
  /-- The named groups. -/
  names : List (String × Nat) := []
  /-- Inside a look behind, the number of groups opened before it. -/
  groupsBefore : Option Nat := none
  /-- The greatest group number that a condition has referred to. -/
  greatestCondition : Nat := 0
  /-- Whether something is amiss that is told only after the whole text has been read. -/
  flawed : Bool := false

abbrev Read := StateT State (Except Refusal)

def refuse {α : Type} (cause : Refusal := .malformed) : Read α := fun _ => .error cause

/-- Leave the given tokens to come. -/
def advance (rest : List Token) : Read Unit := do
  if rest.isEmpty && (← get).dangling then refuse
  modify fun s => { s with rest }

def peek : Read (Option Token) := return (← get).rest.head?

def next? : Read (Option Token) := do
  match (← get).rest with
  | [] => return none
  | t :: rest => advance rest; return some t

/-- Take the next token, which must be there. -/
def next : Read Token := do
  match ← next? with
  | some t => return t
  | none => refuse

/-- Take the next token if it is the given character. -/
def accept (c : Char) : Read Bool := do
  if (← peek) = some (.plain c) then
    let _ ← next?
    return true
  else return false

def expect (c : Char) : Read Unit := do
  if ← accept c then return () else refuse

/-- Take up to `n` plain characters of a class. -/
def takeUpTo (p : Char → Bool) : Nat → Read (List Char)
  | 0 => return []
  | n + 1 => do
    match ← peek with
    | some (.plain c) =>
      if p c then
        let _ ← next?
        return c :: (← takeUpTo p n)
      else return []
    | _ => return []

/-- Take the plain characters before a terminator, which is taken too; at least one must be there. -/
def nameUntil (terminator : Char) : Read (List Char) := do
  let rest := (← get).rest
  let name := rest.takeWhile (· ≠ .plain terminator)
  match rest.drop name.length with
  | [] => refuse
  | _ :: rest =>
    advance rest
    let chars ← name.mapM fun
      | .plain c => pure c
      | .escaped _ => refuse
    if chars = [] then refuse else return chars

/-- Pass over tokens up to and including the given character; false if it is missing. -/
def skipPast (c : Char) : Read Bool := do
  let after := (← get).rest.dropWhile (· ≠ .plain c)
  advance (after.drop 1)
  return !after.isEmpty

/-! ### Groups -/

def openGroup (name : Option String) : Read Nat := do
  let s ← get
  let index := s.groups.length + 1
  let names ← match name with
    | none => pure s.names
    | some name => if (s.names.lookup name).isSome then refuse else pure (s.names ++ [(name, index)])
  set { s with groups := s.groups ++ [none], names }
  return index

/-- The width of a group, nothing for one that is not closed. -/
def State.groupWidth (s : State) (index : Nat) : Width :=
  if index = 0 then .zero else ((s.groups[index - 1]?).join).getD .zero

def closeGroup (index : Nat) (body : Node) : Read Unit :=
  modify fun s => { s with groups := s.groups.set (index - 1) (some (body.width s.groupWidth)) }

/-- Whether a group is closed, so that it can be referred to. -/
def State.isClosed (s : State) (index : Nat) : Bool :=
  index ≠ 0 && ((s.groups[index - 1]?).join).isSome

/-- Refuse references, inside a look behind, to groups of the same look behind. -/
def checkBehind (index : Nat) : Read Unit := do
  let s ← get
  match s.groupsBefore with
  | none => return ()
  | some count => if s.isClosed index && index ≤ count then return () else refuse

def backref (index : Nat) : Read Node := do
  let s ← get
  if s.isClosed index then
    checkBehind index
    return .backref index (if s.flags.caseless then some s.flags.repertoire else none)
  else refuse

end Reader

end IdentityBridge.Pattern
