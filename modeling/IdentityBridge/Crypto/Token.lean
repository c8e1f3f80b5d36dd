import IdentityBridge.Crypto.Aes
import IdentityBridge.Crypto.Base64
import IdentityBridge.Crypto.Hmac

/-! Sealed tokens: an encrypted text with the time of sealing, signed as a whole. Redeeming a token
gives the text back, unless the token is too old, comes from the future, or was changed. -/

namespace IdentityBridge.Crypto

/-- The keys of a secret: one half signs, the other encrypts. -/
structure TokenKey where
  signing : Hmac.Key
  encryption : List UInt8

namespace TokenKey

def salt : String := "TrustedAuthCookie"

def iterations : Nat := 100000

/-- Derive the keys from a secret. -/
def ofSecret (secret : String) : TokenKey :=
  let bytes := Hmac.derive secret.toUTF8.toList salt.toUTF8.toList iterations
  ⟨Hmac.Key.ofBytes (bytes.take 16), bytes.drop 16⟩

end TokenKey

/-- What sealing takes from the world: the time in seconds, and sixteen bytes that should not repeat. -/
structure Moment where
  time : Nat
  start : List UInt8

namespace Token

def version : UInt8 := 0x80

/-- How many seconds a token may come from the future. -/
def skew : Nat := 60

def natOfBytes (bytes : List UInt8) : Nat := bytes.foldl (fun n b => 256 * n + b.toNat) 0

/-- Seal a text. -/
def issue (key : TokenKey) (now : Moment) (text : String) : String :=
  let body := version :: Sha256.lengthBytes now.time ++ now.start ++
    Aes.encrypt key.encryption now.start text.toUTF8.toList
  String.ofList (Base64.encode (body ++ (Hmac.code key.signing body).bytes))

/-- Whether a token sealed at `time` is of age for a time to live. -/
def isCurrent (now time : Nat) (ttl : Int) : Bool :=
  (now : Int) ≤ time + ttl && time ≤ now + skew

/-- The text of bytes in UTF-8. -/
def textOf? (bytes : List UInt8) : Option String := String.fromUTF8? ⟨bytes.toArray⟩

/-- Open a token; with a time to live, only one of age. -/
def redeem? (key : TokenKey) (now : Nat) (token : String) (ttl : Option Int) : Option String := do
  let bytes ← Base64.decode? token.toList
  if bytes.head? ≠ some version || bytes.length < 9 then none
  let time := natOfBytes ((bytes.drop 1).take 8)
  if !ttl.all (isCurrent now time) then none
  if bytes.length < 32 then none
  let body := bytes.take (bytes.length - 32)
  if (Hmac.code key.signing body).bytes ≠ bytes.drop (bytes.length - 32) then none
  let start := (body.drop 9).take 16
  if start.length ≠ 16 then none
  let plain ← Aes.decrypt? key.encryption start (body.drop 25)
  textOf? plain

end Token

end IdentityBridge.Crypto
