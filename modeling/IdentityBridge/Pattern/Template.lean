import IdentityBridge.Pattern.Token
import IdentityBridge.Text.Identifier

/-! Templates for replacements: text in which escapes stand for groups of a match or for special
characters. A group is written by number or by name; an escaped letter without meaning is refused. -/

namespace IdentityBridge.Pattern

/-- Why a template is refused. -/
inductive TemplateError where
  | malformed
  /-- It names a group that the pattern does not have. -/
  | unknownGroup
deriving DecidableEq, Repr

inductive Piece where
  | letter (c : Char)
  | group (index : Nat)
deriving DecidableEq, Repr

namespace Template

/-- A group by number, which must not exceed the number of groups. -/
def groupPiece (groupCount index : Nat) : Except TemplateError Piece :=
  if index ≤ groupCount then .ok (.group index) else .error .malformed

/-- A group by the name or number between angle brackets. -/
def namedPiece (groupCount : Nat) (names : List (String × Nat)) (name : List Char) :
    Except TemplateError Piece :=
  if Text.isIdentifier name then
    match names.lookup (String.ofList name) with
    | some index => groupPiece groupCount index
    | none => .error .unknownGroup
  else
    match Text.Integer.read (String.ofList name) with
    | some (.ofNat index) => groupPiece groupCount index
    | _ => .error .malformed

/-- The character of a token that is a plain digit of the given kind. -/
def digit? (p : Char → Bool) : List Token → Option (Char × List Token)
  | .plain c :: rest => if p c then some (c, rest) else none
  | _ => none

/-- An escape with a digit other than zero: three octal digits, or a group of at most two digits. -/
def numberedPiece (groupCount : Nat) (c : Char) (rest : List Token) :
    Except TemplateError (Piece × List Token) :=
  match digit? Char.isDigit rest with
  | none => (groupPiece groupCount (numeral 10 [c])).map (·, rest)
  | some (d, rest) =>
    match if isOctalDigit c && isOctalDigit d then digit? isOctalDigit rest else none with
    | none => (groupPiece groupCount (numeral 10 [c, d])).map (·, rest)
    | some (e, rest) =>
      let n := numeral 8 [c, d, e]
      if n ≤ 0o377 then .ok (.letter (Char.ofNat n), rest) else .error .malformed

/-- An escape with a zero and up to two octal digits. -/
def octalPiece (rest : List Token) : Piece × List Token :=
  match digit? isOctalDigit rest with
  | none => (.letter (Char.ofNat 0), rest)
  | some (d, rest) =>
    match digit? isOctalDigit rest with
    | none => (.letter (Char.ofNat (numeral 8 [d])), rest)
    | some (e, rest) => (.letter (Char.ofNat (numeral 8 [d, e])), rest)

/-- The characters of plain tokens. -/
def plainChars (ts : List Token) : Option (List Char) :=
  ts.mapM fun
    | .plain c => some c
    | .escaped _ => none

/-- The group after an escaped `g`. -/
def bracketedPiece (groupCount : Nat) (names : List (String × Nat)) (rest : List Token) :
    Except TemplateError (Piece × List Token) :=
  match rest with
  | .plain '<' :: rest =>
    let name := rest.takeWhile (· ≠ .plain '>')
    match rest.drop name.length, plainChars name with
    | _ :: rest, some (c :: cs) => (namedPiece groupCount names (c :: cs)).map (·, rest)
    | _, _ => .error .malformed
  | _ => .error .malformed

/-- The pieces of tokens. -/
def pieces (groupCount : Nat) (names : List (String × Nat)) :
    Nat → List Token → Except TemplateError (List Piece)
  | 0, _ => .ok []
  | _, [] => .ok []
  | fuel + 1, .plain c :: rest => do
    return .letter c :: (← pieces groupCount names fuel rest)
  | fuel + 1, .escaped c :: rest => do
    let (piece, rest) ←
      if c = 'g' then bracketedPiece groupCount names rest
      else if c = '0' then .ok (octalPiece rest)
      else if c.isDigit then numberedPiece groupCount c rest
      else if c = 'b' then .ok (.letter '\x08', rest)
      else match controlEscape? c with
        | some n => .ok (.letter (Char.ofNat n), rest)
        | none =>
          if isAsciiLetter c then .error .malformed
          else .ok (.letter '\\', .plain c :: rest)
    return piece :: (← pieces groupCount names fuel rest)

/-- The pieces of all tokens. -/
def allPieces (groupCount : Nat) (names : List (String × Nat)) (tokens : List Token) :
    Except TemplateError (List Piece) :=
  pieces groupCount names (2 * tokens.length + 1) tokens

/-- Why a text with a single backslash at its end is no template. The backslash is met when the token
before it is taken, so that only an unknown group among the tokens before that one comes earlier. -/
def danglingError (groupCount : Nat) (names : List (String × Nat)) (cs : List Char) :
    TemplateError :=
  match allPieces groupCount names ((tokens? cs.dropLast).getD []).dropLast with
  | .error .unknownGroup => .unknownGroup
  | _ => .malformed

/-- Read a template for a pattern with the given groups. -/
def read (groupCount : Nat) (names : List (String × Nat)) (text : String) :
    Except TemplateError (List Piece) :=
  match tokens? text.toList with
  | none => .error (danglingError groupCount names text.toList)
  | some tokens => allPieces groupCount names tokens

/-- The text of a template, given the texts of the groups. -/
def expand (groupText : Nat → List Char) (pieces : List Piece) : List Char :=
  pieces.flatMap fun
    | .letter c => [c]
    | .group index => groupText index

end Template

end IdentityBridge.Pattern
