import IdentityBridge.Crypto.Sha256

/-! Authentication codes by digest, and the derivation of keys from passwords by repeated codes. A key
is kept as the two states that it leaves before the message and before the inner digest. -/

namespace IdentityBridge.Crypto.Hmac

open Sha256 (State Block)

structure Key where
  inner : State
  outer : State
deriving DecidableEq, Repr

/-- A key of up to 64 bytes as it is, a longer one by its digest. -/
def Key.ofBytes (bytes : List UInt8) : Key :=
  let bytes := if 64 < bytes.length then Sha256.digest bytes else bytes
  let padded := bytes ++ List.replicate (64 - bytes.length) 0
  ⟨Sha256.compress Sha256.initial (Block.ofBytes (padded.map (· ^^^ 0x36))),
   Sha256.compress Sha256.initial (Block.ofBytes (padded.map (· ^^^ 0x5c)))⟩

/-- The block of eight words that follow a block of the key. -/
def tail (s : State) : Block :=
  ⟨s.a, s.b, s.c, s.d, s.e, s.f, s.g, s.h, 0x80000000, 0, 0, 0, 0, 0, 0, 768⟩

/-- The code of a message. -/
def code (key : Key) (message : List UInt8) : State :=
  Sha256.compress key.outer (tail (Sha256.finish key.inner 64 message))

/-- The code of a message that is itself a code. -/
def recode (key : Key) (s : State) : State :=
  Sha256.compress key.outer (tail (Sha256.compress key.inner (tail s)))

/-- Combine a code with so many of the codes that follow it. -/
def combine (key : Key) : Nat → State → State → State
  | 0, _, sum => sum
  | n + 1, last, sum =>
    let next := recode key last
    combine key n next (sum.xor next)

/-- A key of 32 bytes from a password, a salt and a positive number of iterations. -/
def derive (password salt : List UInt8) (iterations : Nat) : List UInt8 :=
  let key := Key.ofBytes password
  let first := code key (salt ++ [0, 0, 0, 1])
  (combine key (iterations - 1) first first).bytes

end IdentityBridge.Crypto.Hmac
