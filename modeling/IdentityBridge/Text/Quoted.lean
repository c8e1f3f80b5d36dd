import IdentityBridge.Text.Printable

/-! Quoted texts: a text between quotes, with the quote, the backslash and every character that does
not print written as escapes. Single quotes are used unless the text holds one and no double quote. -/

namespace IdentityBridge.Text.Quoted

/-- The quote that needs the fewest escapes, single if both do. -/
def quoteFor (cs : List Char) : Char :=
  if cs.contains '\'' && !cs.contains '"' then '"' else '\''

/-- Hexadecimal digits of a number, padded with zeros. -/
def hex (width n : Nat) : List Char :=
  let digits := Nat.toDigits 16 n
  List.replicate (width - digits.length) '0' ++ digits

/-- The form of one character between quotes. -/
def encodeChar (quote c : Char) : List Char :=
  if c = quote ∨ c = '\\' then ['\\', c]
  else if c = '\n' then ['\\', 'n']
  else if c = '\r' then ['\\', 'r']
  else if c = '\t' then ['\\', 't']
  else if isPrintable c then [c]
  else if c.toNat < 0x100 then '\\' :: 'x' :: hex 2 c.toNat
  else if c.toNat < 0x10000 then '\\' :: 'u' :: hex 4 c.toNat
  else '\\' :: 'U' :: hex 8 c.toNat

def encodeChars (cs : List Char) : List Char :=
  let quote := quoteFor cs
  quote :: cs.flatMap (encodeChar quote) ++ [quote]

def encode (s : String) : String := String.ofList (encodeChars s.toList)

end IdentityBridge.Text.Quoted
