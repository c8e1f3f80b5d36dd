/-! The block cipher with keys of 128 bits, and its chaining of blocks. Blocks are lists of sixteen
bytes, column after column. -/

namespace IdentityBridge.Crypto.Aes

abbrev Bytes := List UInt8

/-- The substitution of bytes. -/
def substitutes : Array UInt8 := #[
   0x63, 0x7c, 0x77, 0x7b, 0xf2, 0x6b, 0x6f, 0xc5, 0x30, 0x01, 0x67, 0x2b,
   0xfe, 0xd7, 0xab, 0x76, 0xca, 0x82, 0xc9, 0x7d, 0xfa, 0x59, 0x47, 0xf0,
   0xad, 0xd4, 0xa2, 0xaf, 0x9c, 0xa4, 0x72, 0xc0, 0xb7, 0xfd, 0x93, 0x26,
   0x36, 0x3f, 0xf7, 0xcc, 0x34, 0xa5, 0xe5, 0xf1, 0x71, 0xd8, 0x31, 0x15,
   0x04, 0xc7, 0x23, 0xc3, 0x18, 0x96, 0x05, 0x9a, 0x07, 0x12, 0x80, 0xe2,
   0xeb, 0x27, 0xb2, 0x75, 0x09, 0x83, 0x2c, 0x1a, 0x1b, 0x6e, 0x5a, 0xa0,
   0x52, 0x3b, 0xd6, 0xb3, 0x29, 0xe3, 0x2f, 0x84, 0x53, 0xd1, 0x00, 0xed,
   0x20, 0xfc, 0xb1, 0x5b, 0x6a, 0xcb, 0xbe, 0x39, 0x4a, 0x4c, 0x58, 0xcf,
   0xd0, 0xef, 0xaa, 0xfb, 0x43, 0x4d, 0x33, 0x85, 0x45, 0xf9, 0x02, 0x7f,
   0x50, 0x3c, 0x9f, 0xa8, 0x51, 0xa3, 0x40, 0x8f, 0x92, 0x9d, 0x38, 0xf5,
   0xbc, 0xb6, 0xda, 0x21, 0x10, 0xff, 0xf3, 0xd2, 0xcd, 0x0c, 0x13, 0xec,
   0x5f, 0x97, 0x44, 0x17, 0xc4, 0xa7, 0x7e, 0x3d, 0x64, 0x5d, 0x19, 0x73,
   0x60, 0x81, 0x4f, 0xdc, 0x22, 0x2a, 0x90, 0x88, 0x46, 0xee, 0xb8, 0x14,
   0xde, 0x5e, 0x0b, 0xdb, 0xe0, 0x32, 0x3a, 0x0a, 0x49, 0x06, 0x24, 0x5c,
   0xc2, 0xd3, 0xac, 0x62, 0x91, 0x95, 0xe4, 0x79, 0xe7, 0xc8, 0x37, 0x6d,
   0x8d, 0xd5, 0x4e, 0xa9, 0x6c, 0x56, 0xf4, 0xea, 0x65, 0x7a, 0xae, 0x08,
   0xba, 0x78, 0x25, 0x2e, 0x1c, 0xa6, 0xb4, 0xc6, 0xe8, 0xdd, 0x74, 0x1f,
   0x4b, 0xbd, 0x8b, 0x8a, 0x70, 0x3e, 0xb5, 0x66, 0x48, 0x03, 0xf6, 0x0e,
   0x61, 0x35, 0x57, 0xb9, 0x86, 0xc1, 0x1d, 0x9e, 0xe1, 0xf8, 0x98, 0x11,
   0x69, 0xd9, 0x8e, 0x94, 0x9b, 0x1e, 0x87, 0xe9, 0xce, 0x55, 0x28, 0xdf,
   0x8c, 0xa1, 0x89, 0x0d, 0xbf, 0xe6, 0x42, 0x68, 0x41, 0x99, 0x2d, 0x0f,
   0xb0, 0x54, 0xbb, 0x16]

/-- The inverse substitution. -/
def preimages : Array UInt8 := #[
   0x52, 0x09, 0x6a, 0xd5, 0x30, 0x36, 0xa5, 0x38, 0xbf, 0x40, 0xa3, 0x9e,
   0x81, 0xf3, 0xd7, 0xfb, 0x7c, 0xe3, 0x39, 0x82, 0x9b, 0x2f, 0xff, 0x87,
   0x34, 0x8e, 0x43, 0x44, 0xc4, 0xde, 0xe9, 0xcb, 0x54, 0x7b, 0x94, 0x32,
   0xa6, 0xc2, 0x23, 0x3d, 0xee, 0x4c, 0x95, 0x0b, 0x42, 0xfa, 0xc3, 0x4e,
   0x08, 0x2e, 0xa1, 0x66, 0x28, 0xd9, 0x24, 0xb2, 0x76, 0x5b, 0xa2, 0x49,
   0x6d, 0x8b, 0xd1, 0x25, 0x72, 0xf8, 0xf6, 0x64, 0x86, 0x68, 0x98, 0x16,
   0xd4, 0xa4, 0x5c, 0xcc, 0x5d, 0x65, 0xb6, 0x92, 0x6c, 0x70, 0x48, 0x50,
   0xfd, 0xed, 0xb9, 0xda, 0x5e, 0x15, 0x46, 0x57, 0xa7, 0x8d, 0x9d, 0x84,
   0x90, 0xd8, 0xab, 0x00, 0x8c, 0xbc, 0xd3, 0x0a, 0xf7, 0xe4, 0x58, 0x05,
   0xb8, 0xb3, 0x45, 0x06, 0xd0, 0x2c, 0x1e, 0x8f, 0xca, 0x3f, 0x0f, 0x02,
   0xc1, 0xaf, 0xbd, 0x03, 0x01, 0x13, 0x8a, 0x6b, 0x3a, 0x91, 0x11, 0x41,
   0x4f, 0x67, 0xdc, 0xea, 0x97, 0xf2, 0xcf, 0xce, 0xf0, 0xb4, 0xe6, 0x73,
   0x96, 0xac, 0x74, 0x22, 0xe7, 0xad, 0x35, 0x85, 0xe2, 0xf9, 0x37, 0xe8,
   0x1c, 0x75, 0xdf, 0x6e, 0x47, 0xf1, 0x1a, 0x71, 0x1d, 0x29, 0xc5, 0x89,
   0x6f, 0xb7, 0x62, 0x0e, 0xaa, 0x18, 0xbe, 0x1b, 0xfc, 0x56, 0x3e, 0x4b,
   0xc6, 0xd2, 0x79, 0x20, 0x9a, 0xdb, 0xc0, 0xfe, 0x78, 0xcd, 0x5a, 0xf4,
   0x1f, 0xdd, 0xa8, 0x33, 0x88, 0x07, 0xc7, 0x31, 0xb1, 0x12, 0x10, 0x59,
   0x27, 0x80, 0xec, 0x5f, 0x60, 0x51, 0x7f, 0xa9, 0x19, 0xb5, 0x4a, 0x0d,
   0x2d, 0xe5, 0x7a, 0x9f, 0x93, 0xc9, 0x9c, 0xef, 0xa0, 0xe0, 0x3b, 0x4d,
   0xae, 0x2a, 0xf5, 0xb0, 0xc8, 0xeb, 0xbb, 0x3c, 0x83, 0x53, 0x99, 0x61,
   0x17, 0x2b, 0x04, 0x7e, 0xba, 0x77, 0xd6, 0x26, 0xe1, 0x69, 0x14, 0x63,
   0x55, 0x21, 0x0c, 0x7d]

def substitute (b : UInt8) : UInt8 := substitutes.getD b.toNat 0

def unsubstitute (b : UInt8) : UInt8 := preimages.getD b.toNat 0

def xor (x y : Bytes) : Bytes := List.zipWith (· ^^^ ·) x y

/-! ### Multiplication of bytes -/

/-- Multiply by the polynomial `x`. -/
def double (b : UInt8) : UInt8 := if b < 0x80 then b <<< 1 else (b <<< 1) ^^^ 0x1b

def times3 (b : UInt8) : UInt8 := double b ^^^ b

def times4 (b : UInt8) : UInt8 := double (double b)

def times8 (b : UInt8) : UInt8 := double (times4 b)

def times9 (b : UInt8) : UInt8 := times8 b ^^^ b

def times11 (b : UInt8) : UInt8 := times8 b ^^^ double b ^^^ b

def times13 (b : UInt8) : UInt8 := times8 b ^^^ times4 b ^^^ b

def times14 (b : UInt8) : UInt8 := times8 b ^^^ times4 b ^^^ double b

/-! ### Keys -/

/-- The key of a round from that of the round before and the constant of the round. -/
def nextRoundKey (constant : UInt8) (key : Bytes) : Bytes :=
  let turned := match key.drop 12 with
    | a :: rest => (rest ++ [a]).map substitute
    | [] => []
  let c0 := xor (key.take 4) (xor turned [constant, 0, 0, 0])
  let c1 := xor ((key.drop 4).take 4) c0
  let c2 := xor ((key.drop 8).take 4) c1
  let c3 := xor (key.drop 12) c2
  c0 ++ c1 ++ c2 ++ c3

def roundKeysFrom (key : Bytes) : List UInt8 → List Bytes
  | [] => [key]
  | constant :: rest => key :: roundKeysFrom (nextRoundKey constant key) rest

def roundConstants : List UInt8 := [0x01, 0x02, 0x04, 0x08, 0x10, 0x20, 0x40, 0x80, 0x1b, 0x36]

/-- The eleven keys of the rounds. -/
def roundKeys (key : Bytes) : List Bytes := roundKeysFrom key roundConstants

/-! ### Rounds -/

/-- Rearrange a block by the positions its bytes are taken from. -/
def permute (positions : List Nat) (block : Bytes) : Bytes := positions.map (block.getD · 0)

/-- The rows turned to the left by their number. -/
def shiftRows : Bytes → Bytes :=
  permute [0, 5, 10, 15, 4, 9, 14, 3, 8, 13, 2, 7, 12, 1, 6, 11]

def unshiftRows : Bytes → Bytes :=
  permute [0, 13, 10, 7, 4, 1, 14, 11, 8, 5, 2, 15, 12, 9, 6, 3]

def mixColumns : Bytes → Bytes
  | a :: b :: c :: d :: rest =>
    (double a ^^^ times3 b ^^^ c ^^^ d) :: (a ^^^ double b ^^^ times3 c ^^^ d) ::
    (a ^^^ b ^^^ double c ^^^ times3 d) :: (times3 a ^^^ b ^^^ c ^^^ double d) :: mixColumns rest
  | _ => []

def unmixColumns : Bytes → Bytes
  | a :: b :: c :: d :: rest =>
    (times14 a ^^^ times11 b ^^^ times13 c ^^^ times9 d) ::
    (times9 a ^^^ times14 b ^^^ times11 c ^^^ times13 d) ::
    (times13 a ^^^ times9 b ^^^ times14 c ^^^ times11 d) ::
    (times11 a ^^^ times13 b ^^^ times9 c ^^^ times14 d) :: unmixColumns rest
  | _ => []

/-- The rounds of a block, the last of which does not mix. -/
def encryptRounds : List Bytes → Bytes → Bytes
  | [], block => block
  | [key], block => xor (shiftRows (block.map substitute)) key
  | key :: keys, block =>
    encryptRounds keys (xor (mixColumns (shiftRows (block.map substitute))) key)

def encryptBlock (keys : List Bytes) (block : Bytes) : Bytes :=
  match keys with
  | [] => block
  | key :: keys => encryptRounds keys (xor block key)

/-- Undo the rounds after the first one, given their keys from the last to the first. -/
def decryptRounds : List Bytes → Bytes → Bytes
  | [], block => block
  | [key], block => xor ((unshiftRows block).map unsubstitute) key
  | key :: keys, block =>
    decryptRounds keys (unmixColumns (xor ((unshiftRows block).map unsubstitute) key))

def decryptBlock (keys : List Bytes) (block : Bytes) : Bytes :=
  match keys.reverse with
  | [] => block
  | last :: keys => decryptRounds keys (xor block last)

/-! ### Chains of blocks -/

/-- Cut into so many blocks. -/
def blocks : Nat → Bytes → List Bytes
  | 0, _ => []
  | n + 1, bytes => bytes.take 16 :: blocks n (bytes.drop 16)

/-- Encrypt blocks, each combined with the encrypted one before it. -/
def encryptChain (keys : List Bytes) : Bytes → List Bytes → Bytes
  | _, [] => []
  | last, block :: rest =>
    let encrypted := encryptBlock keys (xor block last)
    encrypted ++ encryptChain keys encrypted rest

def decryptChain (keys : List Bytes) : Bytes → List Bytes → Bytes
  | _, [] => []
  | last, block :: rest => xor (decryptBlock keys block) last ++ decryptChain keys block rest

/-- Fill up to whole blocks with bytes that tell their own number. -/
def pad (bytes : Bytes) : Bytes :=
  let missing := 16 - bytes.length % 16
  bytes ++ List.replicate missing (UInt8.ofNat missing)

/-- Take away what `pad` has added, which must be intact. -/
def unpad? (bytes : Bytes) : Option Bytes := do
  let last ← bytes.getLast?
  let missing := last.toNat
  if missing = 0 || 16 < missing || bytes.length < missing then none
  else if (bytes.drop (bytes.length - missing)).all (· = last) then
    some (bytes.take (bytes.length - missing))
  else none

def encrypt (key start plain : Bytes) : Bytes :=
  let plain := pad plain
  encryptChain (roundKeys key) start (blocks (plain.length / 16) plain)

/-- Undo `encrypt`; nothing if the input does not consist of whole blocks or ends wrongly. -/
def decrypt? (key start bytes : Bytes) : Option Bytes :=
  if bytes.length % 16 = 0 then
    unpad? (decryptChain (roundKeys key) start (blocks (bytes.length / 16) bytes))
  else none

end IdentityBridge.Crypto.Aes
