import IdentityBridge.Text.Blank

/-! Reading of decimal integers: blanks around, a sign, digits of any script, and single
underscores between digits. -/

namespace IdentityBridge.Text.Integer

/-- The zeros of the decimal digits of every script; the other nine digits follow each. -/
def zeros : List Nat := [
   0x30, 0x660, 0x6F0, 0x7C0, 0x966, 0x9E6, 0xA66, 0xAE6, 0xB66, 0xBE6, 0xC66, 0xCE6,
   0xD66, 0xDE6, 0xE50, 0xED0, 0xF20, 0x1040, 0x1090, 0x17E0, 0x1810, 0x1946, 0x19D0, 0x1A80,
   0x1A90, 0x1B50, 0x1BB0, 0x1C40, 0x1C50, 0xA620, 0xA8D0, 0xA900, 0xA9D0, 0xA9F0, 0xAA50, 0xABF0,
   0xFF10, 0x104A0, 0x10D30, 0x11066, 0x110F0, 0x11136, 0x111D0, 0x112F0, 0x11450, 0x114D0, 0x11650, 0x116C0,
   0x11730, 0x118E0, 0x11950, 0x11C50, 0x11D50, 0x11DA0, 0x16A60, 0x16AC0, 0x16B50, 0x1D7CE, 0x1D7D8, 0x1D7E2,
   0x1D7EC, 0x1D7F6, 0x1E140, 0x1E2F0, 0x1E950, 0x1FBF0]

/-- The value of a decimal digit. -/
def digit? (c : Char) : Option Nat :=
  (zeros.find? fun z => z ≤ c.toNat && c.toNat < z + 10).map (c.toNat - ·)

def isDigit (c : Char) : Bool := (digit? c).isSome

/-- The blanks allowed around a number: all but the separator controls. -/
def isPadding (c : Char) : Bool := isBlank c && !(0x1C ≤ c.toNat && c.toNat ≤ 0x1F)

/-- The largest number of digits that is read. -/
def maxDigits : Nat := 4300

/-- The values of digits with single underscores between them. -/
def digits? : List Char → Option (List Nat)
  | [] => none
  | [c] => (digit? c).map ([·])
  | c :: '_' :: rest => do return (← digit? c) :: (← digits? rest)
  | c :: rest => do return (← digit? c) :: (← digits? rest)

/-- A sign, then digits. -/
def readUnpadded : List Char → Option Int
  | '-' :: rest => (magnitude rest).map fun n => -(n : Int)
  | '+' :: rest => (magnitude rest).map Int.ofNat
  | cs => (magnitude cs).map Int.ofNat
where
  magnitude (cs : List Char) : Option Nat := do
    let ds ← digits? cs
    if ds.length ≤ maxDigits then some (ds.foldl (fun n d => 10 * n + d) 0) else none

def read (s : String) : Option Int := readUnpadded (trimBy isPadding s.toList)

end IdentityBridge.Text.Integer
