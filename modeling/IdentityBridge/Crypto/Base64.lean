/-! Bytes written with sixty-four letters. Writing uses the alphabet that is safe in addresses; reading
accepts both alphabets, passes over characters of neither, and ends at the padding. -/

namespace IdentityBridge.Crypto.Base64

/-- The letter of six bits. -/
def letter (n : Nat) : Char :=
  if n < 26 then Char.ofNat (n + 'A'.toNat)
  else if n < 52 then Char.ofNat (n - 26 + 'a'.toNat)
  else if n < 62 then Char.ofNat (n - 52 + '0'.toNat)
  else if n = 62 then '-'
  else '_'

/-- The six bits of a letter. -/
def value? (c : Char) : Option Nat :=
  if 'A' ≤ c && c ≤ 'Z' then some (c.toNat - 'A'.toNat)
  else if 'a' ≤ c && c ≤ 'z' then some (c.toNat - 'a'.toNat + 26)
  else if '0' ≤ c && c ≤ '9' then some (c.toNat - '0'.toNat + 52)
  else if c = '-' || c = '+' then some 62
  else if c = '_' || c = '/' then some 63
  else none

def encode : List UInt8 → List Char
  | [] => []
  | [a] =>
    let n := a.toNat * 16
    [letter (n / 64), letter (n % 64), '=', '=']
  | [a, b] =>
    let n := (a.toNat * 256 + b.toNat) * 4
    [letter (n / 4096), letter (n / 64 % 64), letter (n % 64), '=']
  | a :: b :: c :: rest =>
    let n := (a.toNat * 256 + b.toNat) * 256 + c.toNat
    letter (n / 262144) :: letter (n / 4096 % 64) :: letter (n / 64 % 64) :: letter (n % 64) ::
      encode rest

/-- The letters read since the last whole group of four. -/
inductive Group where
  | none
  | one (a : Nat)
  | two (b : Nat)
  | three (c : Nat)

/-- Read letters; `pads` counts the padding characters since the last letter. A text that ends within
a group without full padding is refused. -/
def decodeFrom (pads : Nat) (g : Group) : List Char → Option (List UInt8)
  | [] =>
    match g with
    | .none => some []
    | _ => none
  | ch :: rest =>
    if ch = '=' then
      match g with
      | .two _ => if 1 ≤ pads then some [] else decodeFrom (pads + 1) g rest
      | .three _ => some []
      | _ => decodeFrom pads g rest
    else
      match value? ch with
      | none => decodeFrom pads g rest
      | some n =>
        match g with
        | .none => decodeFrom 0 (.one n) rest
        | .one a =>
          (decodeFrom 0 (.two (n % 16)) rest).map (UInt8.ofNat (a * 4 + n / 16) :: ·)
        | .two b => (decodeFrom 0 (.three (n % 4)) rest).map (UInt8.ofNat (b * 16 + n / 4) :: ·)
        | .three c => (decodeFrom 0 .none rest).map (UInt8.ofNat (c * 64 + n) :: ·)

def decode? (cs : List Char) : Option (List UInt8) := decodeFrom 0 .none cs

end IdentityBridge.Crypto.Base64
