import IdentityBridge.Text.Blank
import IdentityBridge.Text.Case
import IdentityBridge.Text.Integer
import IdentityBridge.Text.Word

/-! Sets of characters in patterns: single characters, ranges and classes, possibly all but those,
and possibly regardless of case. Code points are numbers here, since a pattern may name points that
no text holds. -/

namespace IdentityBridge.Pattern

/-- The repertoire a pattern works with: every script, or ASCII only. -/
inductive Repertoire where
  | unicode
  | ascii
deriving DecidableEq, Repr

inductive CharClass where
  | digit
  | space
  | word
deriving DecidableEq, Repr

namespace CharClass

def isAsciiSpace (c : Char) : Bool := c = ' ' || (9 ≤ c.toNat && c.toNat ≤ 13)

def holds (repertoire : Repertoire) (k : CharClass) (c : Char) : Bool :=
  match repertoire, k with
  | .unicode, digit => Text.Integer.isDigit c
  | .unicode, space => Text.isBlank c
  | .unicode, word => Text.isWord c
  | .ascii, digit => c.isDigit
  | .ascii, space => isAsciiSpace c
  | .ascii, word => c.isAlphanum || c = '_'

end CharClass

/-! ### Case -/

/-- The first character of the lower case, which stands for it when single characters are compared. -/
def lowerOne (c : Char) : Char := (Text.lowerChar c).headD c

/-- Groups of lower case characters that share an upper case. -/
def sharedUppers : List (List Nat) := [
   [0x69, 0x131], [0x73, 0x17F], [0xB5, 0x3BC], [0x345, 0x3B9, 0x1FBE], [0x390, 0x1FD3],
   [0x3B0, 0x1FE3], [0x3B2, 0x3D0], [0x3B5, 0x3F5], [0x3B8, 0x3D1], [0x3BA, 0x3F0],
   [0x3C0, 0x3D6], [0x3C1, 0x3F1], [0x3C2, 0x3C3], [0x3C6, 0x3D5], [0x432, 0x1C80],
   [0x434, 0x1C81], [0x43E, 0x1C82], [0x441, 0x1C83], [0x442, 0x1C84, 0x1C85], [0x44A, 0x1C86],
   [0x463, 0x1C87], [0x1C88, 0xA64B], [0x1E61, 0x1E9B], [0xFB05, 0xFB06]]

/-- The code points whose lower case is the given one, itself apart. -/
def uppersOf (point : Nat) : List Nat :=
  (if point = 'i'.toNat then ['İ'.toNat] else []) ++
  Text.lowerRuns.filterMap fun run =>
    let source := (point : Int) - run.shift
    if (run.first : Int) ≤ source ∧ source ≤ run.last ∧ (source - run.first) % run.step = 0 then
      some source.toNat
    else none

/-- The characters that differ from a character at most in case. -/
def kin (repertoire : Repertoire) (c : Char) : List Nat :=
  match repertoire with
  | .ascii =>
    if c.isUpper then [c.toNat, c.toNat + 32]
    else if c.isLower then [c.toNat, c.toNat - 32]
    else [c.toNat]
  | .unicode =>
    let lower := (lowerOne c).toNat
    let lowers := (sharedUppers.find? (·.contains lower)).getD [lower]
    c.toNat :: lowers ++ lowers.flatMap uppersOf

/-! ### Sets -/

inductive SetItem where
  | point (n : Nat)
  | range (first last : Nat)
  | class (negated : Bool) (k : CharClass)
deriving DecidableEq, Repr

structure CharSet where
  items : List SetItem
  negated : Bool := false
  /-- Whether case is disregarded. -/
  caseless : Bool := false
  repertoire : Repertoire := .unicode
deriving DecidableEq, Repr

namespace CharSet

/-- Whether an item holds of a character, given the code points that count as equal to it. -/
def itemHolds (repertoire : Repertoire) (equals : List Nat) (c : Char) : SetItem → Bool
  | .point n => equals.contains n
  | .range first last => equals.any fun n => first ≤ n && n ≤ last
  | .class negated k => negated != k.holds repertoire c

def holds (s : CharSet) (c : Char) : Bool :=
  let equals := if s.caseless then kin s.repertoire c else [c.toNat]
  s.negated != s.items.any (itemHolds s.repertoire equals c)

end CharSet

end IdentityBridge.Pattern
