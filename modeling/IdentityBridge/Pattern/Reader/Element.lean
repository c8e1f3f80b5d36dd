import IdentityBridge.Pattern.Reader.State
import IdentityBridge.Text.Integer

/-! Reading of the elements of a sequence: characters, sets of them, escapes, and the bounds of a loop
after an element. -/

namespace IdentityBridge.Pattern.Reader

/-! ### Characters and sets -/

def setNode (items : List SetItem) (negated : Bool := false) : Read Node := do
  let flags := (← get).flags
  return .char ⟨items, negated, flags.caseless, flags.repertoire⟩

/-- Exactly so many hexadecimal digits. -/
def hexEscape (count : Nat) : Read Nat := do
  let ds ← takeUpTo isHexDigit count
  if ds.length = count then return numeral 16 ds else refuse

/-- A character by its name between braces. -/
def namedEscape : Read Nat := do
  expect '\x7b'
  let name ← nameUntil '\x7d'
  match (← get).characters (String.ofList name) with
  | some c => return c.toNat
  | none => refuse

/-- The code point of an escape with hexadecimal digits or a name, or of a character that needs no
escape. -/
def pointEscape (c : Char) : Read Nat := do
  if c = 'x' then hexEscape 2
  else if c = 'u' then hexEscape 4
  else if c = 'U' then
    let n ← hexEscape 8
    if n ≤ 0x10FFFF then return n else refuse
  else if c = 'N' then namedEscape
  else if isAsciiLetter c || c.isDigit then refuse
  else return c.toNat

/-- The item of an escape inside a set. -/
def setEscape (c : Char) : Read SetItem := do
  if c = 'b' then return .point 8
  match controlEscape? c, classEscape? c with
  | some n, _ => return .point n
  | none, some item => return item
  | none, none =>
    if isOctalDigit c then
      let n := numeral 8 (c :: (← takeUpTo isOctalDigit 2))
      if n ≤ 0o377 then return .point n else refuse
    else return .point (← pointEscape c)

/-- One end of a range, or an item of its own. -/
def setMember : Token → Read SetItem
  | .plain c => return .point c.toNat
  | .escaped c => setEscape c

/-- The items of a set up to its closing bracket. A bracket at the start is an item. -/
def setItems : Nat → List SetItem → Read (List SetItem)
  | 0, _ => refuse
  | fuel + 1, items => do
    let t ← next
    if t = .plain ']' ∧ items ≠ [] then return items
    let first ← setMember t
    if ← accept '-' then
      let t ← next
      if t = .plain ']' then return items ++ [first, .point '-'.toNat]
      let second ← setMember t
      match first, second with
      | .point a, .point b => if a ≤ b then setItems fuel (items ++ [.range a b]) else refuse
      | _, _ => refuse
    else setItems fuel (items ++ [first])

/-- A set, of which the opening bracket is taken. -/
def charSet : Read Node := do
  let negated ← accept '^'
  let items ← setItems ((← get).rest.length + 1) []
  setNode items negated

/-! ### Items of a sequence -/

/-- A node of a sequence, with what decides whether it may be repeated. -/
inductive Item where
  | plain (n : Node)
  | anchor (n : Node)
  | loop (n : Node)

def Item.node : Item → Node
  | plain n => n
  | anchor n => n
  | loop n => n

def wordEdge (inside : Bool) : Read Item := do
  return .anchor (.anchor (.wordEdge inside (← get).flags.repertoire))

/-- An octal number of three digits, or a reference to a group of at most two digits. -/
def numberedEscape (c : Char) : Read Node := do
  match ← takeUpTo Char.isDigit 1 with
  | [d] =>
    if isOctalDigit c && isOctalDigit d then
      match ← takeUpTo isOctalDigit 1 with
      | [e] =>
        let n := numeral 8 [c, d, e]
        if n ≤ 0o377 then setNode [.point n] else refuse
      | _ => backref (numeral 10 [c, d])
    else backref (numeral 10 [c, d])
  | _ => backref (numeral 10 [c])

/-- The item of an escape outside of sets. -/
def escape (c : Char) : Read Item := do
  match c with
  | 'A' => return .anchor (.anchor .textStart)
  | 'Z' => return .anchor (.anchor .textEnd)
  | 'b' => wordEdge false
  | 'B' => wordEdge true
  | _ =>
    match classEscape? c, controlEscape? c with
    | some item, _ => return .plain (← setNode [item])
    | none, some n => return .plain (← setNode [.point n])
    | none, none =>
      if c = '0' then
        return .plain (← setNode [.point (numeral 8 (← takeUpTo isOctalDigit 2))])
      else if c.isDigit then return .plain (← numberedEscape c)
      else return .plain (← setNode [.point (← pointEscape c)])

/-- The greatest bound of a loop. The number after it stands for no bound. -/
def greatestBound : Nat := 0xFFFFFFFE

/-- The bound that digits are written for; the given one without digits. -/
def bound (without : Option Nat) (digits : List Char) : Read (Option Nat) := do
  if digits = [] then return without
  if Text.Integer.maxDigits < digits.length then refuse .longBound
  let n := numeral 10 digits
  if greatestBound < n then refuse .excessiveBound
  return some n

/-- The bounds between braces, of which the opening one is taken; nothing is taken if they are no
bounds. -/
def bounds? : Read (Option (Nat × Option Nat)) := do
  let s ← get
  if (← peek) = some (.plain '\x7d') then return none
  let size := s.rest.length
  let low ← takeUpTo Char.isDigit size
  let high ← if ← accept ',' then takeUpTo Char.isDigit size else pure low
  if ← accept '\x7d' then
    let least := (← bound (some 0) low).getD 0
    let most ← bound none high
    if most.any (· < least) then refuse else return some (least, most)
  else
    set s
    return none

/-- What follows a loop says how often it prefers to run. -/
def greed : Read Greed := do
  if ← accept '?' then return .lazy
  if ← accept '+' then return .possessive
  return .greedy

/-- Repeat the last item of a sequence, given from last to first. -/
def repeatLast (least : Nat) (most : Option Nat) (items : List Item) : Read (List Item) := do
  match items with
  | .plain n :: earlier =>
    modify fun s => { s with flawed := s.flawed || s.flags.loopless }
    return .loop (.loop (← greed) least most n) :: earlier
  | _ => refuse

end IdentityBridge.Pattern.Reader
