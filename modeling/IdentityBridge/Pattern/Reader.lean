import IdentityBridge.Pattern.Reader.Element
import IdentityBridge.Pattern.Reader.Switches
import IdentityBridge.Text.Identifier

/-! Reading of patterns: sequences, alternatives and what parentheses introduce. A text that is not a
pattern is refused. -/

namespace IdentityBridge.Pattern.Reader

/-- The number of a group that a condition refers to. -/
def condition : Read Nat := do
  let name ← nameUntil ')'
  let index ← if Text.isIdentifier name then
      match (← get).names.lookup (String.ofList name) with
      | some index => pure index
      | none => refuse
    else
      match Text.Integer.read (String.ofList name) with
      | some (.ofNat n) =>
        if n = 0 then refuse
        else
          modify fun s => { s with greatestCondition := max s.greatestCondition n }
          pure n
      | _ => refuse
  checkBehind index
  return index

/-- The name of a group that is written before a terminator. -/
def groupName (terminator : Char) : Read String := do
  let name ← nameUntil terminator
  if Text.isIdentifier name then return String.ofList name else refuse

def sequenceOf (items : List Item) : Node :=
  match items.reverse.map Item.node with
  | [] => .empty
  | first :: rest => (first :: rest).dropLast.foldr .seq ((first :: rest).getLast (by simp))

mutual

/-- Alternatives up to the end or a closing parenthesis. At the start of the whole pattern flags
may be set. -/
def alternatives (atStart : Bool) : Nat → Read Node
  | 0 => refuse
  | fuel + 1 => do
    let first ← sequence atStart fuel []
    if ← accept '|' then return .alt first (← alternatives false fuel) else return first

/-- A sequence of items, given from last to first, up to the end, a bar or a closing parenthesis. -/
def sequence (atStart : Bool) : Nat → List Item → Read Node
  | 0, _ => refuse
  | fuel + 1, items => do
    match ← peek with
    | none => return sequenceOf items
    | some (.escaped c) =>
      let _ ← next?
      let item ← escape c
      sequence atStart fuel (item :: items)
    | some (.plain c) =>
      if c = '|' || c = ')' then return sequenceOf items
      let _ ← next?
      let flags := (← get).flags
      if flags.verbose && CharClass.isAsciiSpace c then sequence atStart fuel items
      else if flags.verbose && c = '#' then
        let _ ← skipPast '\n'
        sequence atStart fuel items
      else
        match c with
        | '[' => sequence atStart fuel (.plain (← charSet) :: items)
        | '.' =>
          let node ← if flags.dotAll then setNode [] true else setNode [.point '\n'.toNat] true
          sequence atStart fuel (.plain node :: items)
        | '^' =>
          let a : Anchor := if flags.multiline then .lineStart else .textStart
          sequence atStart fuel (.anchor (.anchor a) :: items)
        | '$' =>
          let a : Anchor := if flags.multiline then .lineEnd else .lastLineEnd
          sequence atStart fuel (.anchor (.anchor a) :: items)
        | '*' => sequence atStart fuel (← repeatLast 0 none items)
        | '+' => sequence atStart fuel (← repeatLast 1 none items)
        | '?' => sequence atStart fuel (← repeatLast 0 (some 1) items)
        | '\x7b' =>
          match ← bounds? with
          | some (least, most) => sequence atStart fuel (← repeatLast least most items)
          | none => sequence atStart fuel (.plain (← setNode [.point c.toNat]) :: items)
        | '(' => sequence atStart fuel (← parenthesis atStart fuel items)
        | _ => sequence atStart fuel (.plain (← setNode [.point c.toNat]) :: items)

/-- What an opening parenthesis introduces. -/
def parenthesis (atStart : Bool) : Nat → List Item → Read (List Item)
  | 0, _ => refuse
  | fuel + 1, items => do
    if ← accept '?' then
      match ← next with
      | .plain 'P' =>
        match ← next with
        | .plain '<' =>
          let name ← groupName '>'
          return (← capture (some name) fuel) :: items
        | .plain '=' =>
          let name ← groupName ')'
          match (← get).names.lookup name with
          | some index => return .plain (← backref index) :: items
          | none => refuse
        | _ => refuse
      | .plain ':' => return .plain (← enclosed (← get).flags fuel) :: items
      | .plain '#' => if ← skipPast ')' then return items else refuse
      | .plain '=' => return .plain (.ahead false (← enclosed (← get).flags fuel)) :: items
      | .plain '!' => return .plain (.ahead true (← enclosed (← get).flags fuel)) :: items
      | .plain '<' =>
        match ← next with
        | .plain '=' => return .plain (← behind false fuel) :: items
        | .plain '!' => return .plain (← behind true fuel) :: items
        | _ => refuse
      | .plain '(' =>
        let index ← condition
        let flags := (← get).flags
        let yes ← sequence false fuel []
        let no ← if ← accept '|' then sequence false fuel [] else pure .empty
        expect ')'
        modify fun s => { s with flags }
        return .plain (.ifGroup index yes no) :: items
      | .plain '>' => return .plain (.atomic (← enclosed (← get).flags fuel)) :: items
      | t =>
        modify fun s => { s with rest := t :: s.rest }
        match ← switches with
        | .whole flags letters =>
          if atStart && items.isEmpty then
            modify fun s => { s with flags, switched := s.switched ++ letters }
            return items
          else refuse
        | .part flags => return .plain (← enclosed flags fuel) :: items
    else return (← capture none fuel) :: items

/-- The inside of a parenthesis under the given flags, and its end. -/
def enclosed (flags : Flags) : Nat → Read Node
  | 0 => refuse
  | fuel + 1 => do
    let outer := (← get).flags
    modify fun s => { s with flags }
    let body ← alternatives false fuel
    expect ')'
    modify fun s => { s with flags := outer }
    return body

def capture (name : Option String) : Nat → Read Item
  | 0 => refuse
  | fuel + 1 => do
    let index ← openGroup name
    let body ← enclosed (← get).flags fuel
    closeGroup index body
    return .plain (.group index body)

/-- A look behind, whose matches must all have the same width, which is limited. Otherwise the pattern is
flawed. -/
def behind (negated : Bool) : Nat → Read Node
  | 0 => refuse
  | fuel + 1 => do
    let s ← get
    let outer := s.groupsBefore
    set { s with groupsBefore := some (outer.getD s.groups.length) }
    let body ← enclosed s.flags fuel
    modify fun s => { s with groupsBefore := outer }
    match (body.width (← get).groupWidth).fixed? with
    | some width => return .behind negated width body
    | none =>
      modify fun s => { s with flawed := true }
      return .empty

end

/-- The state before a text is read. A backslash that stands alone is refused at once. -/
def State.start (characters : CharacterNames) (text : List Char) : Except Refusal State :=
  match tokens? text with
  | some rest => .ok { rest, characters }
  | none =>
    match tokens? text.dropLast with
    | some (first :: rest) => .ok { rest := first :: rest, dangling := true, characters }
    | _ => .error .malformed

/-- The whole of a pattern: its node and the state at the end. -/
def whole (characters : CharacterNames) (text : String) : Except Refusal (Node × State) := do
  let start ← State.start characters text.toList
  let (node, s) ← (alternatives true (4 * start.rest.length + 4)).run start
  if s.switched.contains 'a' && s.switched.contains 'u' then throw .conflictingRepertoires
  if !s.rest.isEmpty || s.groups.length < s.greatestCondition || s.flawed then throw .malformed
  return (node, s)

end IdentityBridge.Pattern.Reader
