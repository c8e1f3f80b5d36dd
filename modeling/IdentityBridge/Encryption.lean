import IdentityBridge.Crypto.Token
import IdentityBridge.Report
import IdentityBridge.Vault

/-! Encryption of remembered users under a secret. -/

namespace IdentityBridge

inductive EncryptionError where
  | missingKey
  /-- A token was changed, is too old, or is none. -/
  | invalidToken
deriving DecidableEq, Repr

namespace EncryptionError

def report : EncryptionError → Report
  | missingKey => {
      kind := .encryption
      message := "A cookie encryption key is required, set TRUSTED_AUTH_ENCRYPTION_KEY"
      code? := some "MISSING_ENCRYPTION_KEY" }
  | invalidToken => {
      kind := .encryption
      message := "Failed to decrypt token"
      code? := some "INVALID_TOKEN" }

end EncryptionError

namespace Cipher

/-- The cipher of a key at a moment. -/
def ofKey (key : Crypto.TokenKey) (now : Crypto.Moment) : Cipher where
  encrypt := Crypto.Token.issue key now
  decrypt? token ttl := Crypto.Token.redeem? key now.time token ttl

/-- The cipher of a secret, which may not be empty. -/
def ofSecret (secret : Option String) (now : Crypto.Moment) : Except EncryptionError Cipher :=
  match secret with
  | none => .error .missingKey
  | some secret =>
    if secret = "" then .error .missingKey else .ok (ofKey (Crypto.TokenKey.ofSecret secret) now)

/-- Open a token. -/
def decrypt (c : Cipher) (token : String) (ttl : Option Int) : Except EncryptionError String :=
  match c.decrypt? token ttl with
  | some text => .ok text
  | none => .error .invalidToken

end Cipher

end IdentityBridge
