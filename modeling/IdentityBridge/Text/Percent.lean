/-! Texts inside addresses: letters, digits and four marks stand for themselves, a space becomes a plus
sign, and every other character becomes its bytes, each written as a percent sign and two digits. -/

namespace IdentityBridge.Text.Percent

/-- Characters that stand for themselves. -/
def isPlain (c : Char) : Bool :=
  c.isAlphanum || c = '_' || c = '.' || c = '-' || c = '~'

def hexDigit (n : Nat) : Char := Char.toUpper (Nat.digitChar n)

def encodeByte (b : UInt8) : List Char := ['%', hexDigit (b.toNat / 16), hexDigit (b.toNat % 16)]

def encodeChar (c : Char) : List Char :=
  if isPlain c then [c]
  else if c = ' ' then ['+']
  else (String.singleton c).toUTF8.toList.flatMap encodeByte

def encode (s : String) : String := String.ofList (s.toList.flatMap encodeChar)

end IdentityBridge.Text.Percent
