/-! The digest of a byte sequence in 256 bits, as a compression of blocks of sixteen words into a state
of eight words. One round at a time, the window of the next sixteen schedule words moves on by one. -/

namespace IdentityBridge.Crypto.Sha256

/-- Eight words: the state between blocks, and the digest at the end. -/
structure State where
  a : UInt32
  b : UInt32
  c : UInt32
  d : UInt32
  e : UInt32
  f : UInt32
  g : UInt32
  h : UInt32
deriving DecidableEq, Repr

/-- Sixteen words of a message. -/
structure Block where
  w0 : UInt32
  w1 : UInt32
  w2 : UInt32
  w3 : UInt32
  w4 : UInt32
  w5 : UInt32
  w6 : UInt32
  w7 : UInt32
  w8 : UInt32
  w9 : UInt32
  w10 : UInt32
  w11 : UInt32
  w12 : UInt32
  w13 : UInt32
  w14 : UInt32
  w15 : UInt32
deriving DecidableEq, Repr

/-- The state before the first block. -/
def initial : State :=
  ⟨0x6a09e667, 0xbb67ae85, 0x3c6ef372, 0xa54ff53a,
   0x510e527f, 0x9b05688c, 0x1f83d9ab, 0x5be0cd19⟩

/-- One constant for each round. -/
def constants : List UInt32 := [
   0x428a2f98, 0x71374491, 0xb5c0fbcf, 0xe9b5dba5, 0x3956c25b, 0x59f111f1,
   0x923f82a4, 0xab1c5ed5, 0xd807aa98, 0x12835b01, 0x243185be, 0x550c7dc3,
   0x72be5d74, 0x80deb1fe, 0x9bdc06a7, 0xc19bf174, 0xe49b69c1, 0xefbe4786,
   0x0fc19dc6, 0x240ca1cc, 0x2de92c6f, 0x4a7484aa, 0x5cb0a9dc, 0x76f988da,
   0x983e5152, 0xa831c66d, 0xb00327c8, 0xbf597fc7, 0xc6e00bf3, 0xd5a79147,
   0x06ca6351, 0x14292967, 0x27b70a85, 0x2e1b2138, 0x4d2c6dfc, 0x53380d13,
   0x650a7354, 0x766a0abb, 0x81c2c92e, 0x92722c85, 0xa2bfe8a1, 0xa81a664b,
   0xc24b8b70, 0xc76c51a3, 0xd192e819, 0xd6990624, 0xf40e3585, 0x106aa070,
   0x19a4c116, 0x1e376c08, 0x2748774c, 0x34b0bcb5, 0x391c0cb3, 0x4ed8aa4a,
   0x5b9cca4f, 0x682e6ff3, 0x748f82ee, 0x78a5636f, 0x84c87814, 0x8cc70208,
   0x90befffa, 0xa4506ceb, 0xbef9a3f7, 0xc67178f2]

def rotateRight (x n : UInt32) : UInt32 := (x >>> n) ||| (x <<< (32 - n))

def scheduleSmall0 (x : UInt32) : UInt32 := rotateRight x 7 ^^^ rotateRight x 18 ^^^ (x >>> 3)

def scheduleSmall1 (x : UInt32) : UInt32 := rotateRight x 17 ^^^ rotateRight x 19 ^^^ (x >>> 10)

def mixA (a : UInt32) : UInt32 := rotateRight a 2 ^^^ rotateRight a 13 ^^^ rotateRight a 22

def mixE (e : UInt32) : UInt32 := rotateRight e 6 ^^^ rotateRight e 11 ^^^ rotateRight e 25

/-- The bits of `f` where `e` is set, those of `g` elsewhere. -/
def choose (e f g : UInt32) : UInt32 := (e &&& f) ^^^ (~~~e &&& g)

def majority (a b c : UInt32) : UInt32 := (a &&& b) ^^^ (a &&& c) ^^^ (b &&& c)

/-- The rounds of a block, one for each constant. -/
def rounds : List UInt32 →
    (a b c d e f g h : UInt32) →
    (w0 w1 w2 w3 w4 w5 w6 w7 w8 w9 w10 w11 w12 w13 w14 w15 : UInt32) → State
  | [], a, b, c, d, e, f, g, h, _, _, _, _, _, _, _, _, _, _, _, _, _, _, _, _ =>
    ⟨a, b, c, d, e, f, g, h⟩
  | k :: ks, a, b, c, d, e, f, g, h,
      w0, w1, w2, w3, w4, w5, w6, w7, w8, w9, w10, w11, w12, w13, w14, w15 =>
    let t := h + mixE e + choose e f g + k + w0
    rounds ks (t + mixA a + majority a b c) a b c (d + t) e f g
      w1 w2 w3 w4 w5 w6 w7 w8 w9 w10 w11 w12 w13 w14 w15
      (scheduleSmall1 w14 + w9 + scheduleSmall0 w1 + w0)

def State.add (s t : State) : State :=
  ⟨s.a + t.a, s.b + t.b, s.c + t.c, s.d + t.d, s.e + t.e, s.f + t.f, s.g + t.g, s.h + t.h⟩

def State.xor (s t : State) : State :=
  ⟨s.a ^^^ t.a, s.b ^^^ t.b, s.c ^^^ t.c, s.d ^^^ t.d,
   s.e ^^^ t.e, s.f ^^^ t.f, s.g ^^^ t.g, s.h ^^^ t.h⟩

/-- Take a block into the state. -/
def compress (s : State) (m : Block) : State :=
  s.add (rounds constants s.a s.b s.c s.d s.e s.f s.g s.h
    m.w0 m.w1 m.w2 m.w3 m.w4 m.w5 m.w6 m.w7 m.w8 m.w9 m.w10 m.w11 m.w12 m.w13 m.w14 m.w15)

/-! ### Bytes -/

def word (a b c d : UInt8) : UInt32 :=
  (a.toUInt32 <<< 24) ||| (b.toUInt32 <<< 16) ||| (c.toUInt32 <<< 8) ||| d.toUInt32

def wordBytes (w : UInt32) : List UInt8 :=
  [(w >>> 24).toUInt8, (w >>> 16).toUInt8, (w >>> 8).toUInt8, w.toUInt8]

def State.bytes (s : State) : List UInt8 :=
  [s.a, s.b, s.c, s.d, s.e, s.f, s.g, s.h].flatMap wordBytes

/-- Four bytes from a list that counts as followed by zeros. -/
def wordAt (bytes : List UInt8) (i : Nat) : UInt32 :=
  match bytes.drop (4 * i) with
  | a :: b :: c :: d :: _ => word a b c d
  | [a, b, c] => word a b c 0
  | [a, b] => word a b 0 0
  | [a] => word a 0 0 0
  | [] => 0

/-- The first 64 bytes as a block. -/
def Block.ofBytes (bytes : List UInt8) : Block :=
  let w := wordAt (bytes.take 64)
  ⟨w 0, w 1, w 2, w 3, w 4, w 5, w 6, w 7, w 8, w 9, w 10, w 11, w 12, w 13, w 14, w 15⟩

/-- A number in eight bytes, most significant first. -/
def lengthBytes (n : Nat) : List UInt8 :=
  (List.range 8).map fun i => UInt8.ofNat (n / Nat.pow 256 (7 - i))

/-- What follows a message of `size` bytes: a set bit, zeros up to the end of a block less eight
bytes, and the number of bits of the message. -/
def padding (size : Nat) : List UInt8 :=
  0x80 :: List.replicate ((119 - size % 64) % 64) 0 ++ lengthBytes (8 * size)

/-- Take so many blocks into the state. -/
def absorb : Nat → State → List UInt8 → State
  | 0, s, _ => s
  | n + 1, s, bytes => absorb n (compress s (Block.ofBytes bytes)) (bytes.drop 64)

/-- The digest of a message of which `done` bytes, a multiple of 64, are already in the state. -/
def finish (s : State) (done : Nat) (bytes : List UInt8) : State :=
  let rest := bytes ++ padding (done + bytes.length)
  absorb (rest.length / 64) s rest

/-- The digest of a message. -/
def digest (bytes : List UInt8) : List UInt8 := (finish initial 0 bytes).bytes

end IdentityBridge.Crypto.Sha256
