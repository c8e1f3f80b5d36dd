import IdentityBridge.Pattern.CharSet

/-! Tokens of patterns and templates: single characters, and characters behind a backslash. Some of the
latter mean the same wherever they stand. -/

namespace IdentityBridge.Pattern

inductive Token where
  | plain (c : Char)
  | escaped (c : Char)
deriving DecidableEq, Repr

/-- Cut a text into tokens; a backslash at the end is refused. -/
def tokens? : List Char → Option (List Token)
  | [] => some []
  | '\\' :: c :: rest => (tokens? rest).map (.escaped c :: ·)
  | c :: rest => if c = '\\' then none else (tokens? rest).map (.plain c :: ·)

/-! ### Digits -/

def isHexDigit (c : Char) : Bool := c.isDigit || ('a' ≤ c && c ≤ 'f') || ('A' ≤ c && c ≤ 'F')

def isOctalDigit (c : Char) : Bool := '0' ≤ c && c ≤ '7'

def isAsciiLetter (c : Char) : Bool := c.isLower || c.isUpper

/-- The value of a hexadecimal digit. -/
def digitValue (c : Char) : Nat :=
  if c.isDigit then c.toNat - '0'.toNat
  else if c.isLower then c.toNat - 'a'.toNat + 10
  else c.toNat - 'A'.toNat + 10

/-- The number that digits are written for in a base. -/
def numeral (base : Nat) (ds : List Char) : Nat := ds.foldl (fun n c => base * n + digitValue c) 0

/-! ### Escapes -/

/-- The code point of an escape that means the same inside and outside of sets. -/
def controlEscape? : Char → Option Nat
  | 'a' => some 7
  | 'f' => some 12
  | 'n' => some 10
  | 'r' => some 13
  | 't' => some 9
  | 'v' => some 11
  | '\\' => some 92
  | _ => none

/-- The class of characters that an escape stands for. -/
def classEscape? : Char → Option SetItem
  | 'd' => some (.class false .digit)
  | 'D' => some (.class true .digit)
  | 's' => some (.class false .space)
  | 'S' => some (.class true .space)
  | 'w' => some (.class false .word)
  | 'W' => some (.class true .word)
  | _ => none

end IdentityBridge.Pattern
