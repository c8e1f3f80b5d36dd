import IdentityBridge.Exchange
import IdentityBridge.Text.Blank

/-! Vaults remember, from one request to the next, which user a client was authenticated as. A vault
keeps the written form of the user in the session, or encrypted in a cookie. -/

namespace IdentityBridge

/-- A way to hide texts in tokens. A token older than a time to live, in seconds, is not opened. -/
structure Cipher where
  encrypt : String → String
  decrypt? : (token : String) → (ttl : Option Int) → Option String

/-- The ways of a vault that keeps users in a cookie. -/
structure CookieVault where
  cipher : Cipher
  /-- The name of the cookie. -/
  name : String
  path : String
  /-- The domains for which the cookie can be set, each with a leading dot. -/
  domains : List String
  /-- The seconds that the cookie stays, or a negative number if it ends with the client's session. -/
  ttl : Int

namespace CookieVault

/-- Put a dot before a domain that is not empty and has none. -/
def conformDomain (domain : String) : String :=
  match domain.toList with
  | [] => domain
  | c :: _ => if c = '.' then domain else "." ++ domain

/-- The name of the cookie of a vault, without what is put before it. -/
def baseName : String := "TRUSTEDAUTH"

def make (cipher : Cipher) (namePrefix path : String) (domains : List String) (ttl : Int) :
    CookieVault where
  cipher
  name := namePrefix ++ baseName
  path := if path = "" then "/" else path
  domains := (domains.filter fun d => !Text.blank d).map fun d => conformDomain (Text.trim d)
  ttl

/-- The first domain that a server lies in. -/
def domain? (v : CookieVault) (server : String) : Option String :=
  v.domains.find? fun domain => domain.toList.isSuffixOf (conformDomain server).toList

/-- The cookie that replaces the one at the client. -/
def cookie (v : CookieVault) (request : Request) (value : String) (maxAge : Int) : Cookie where
  key := v.name
  value
  maxAge := if 0 ≤ maxAge then some maxAge else none
  path := v.path
  domain := v.domain? request.serverName
  secure := request.isSecure

def store (v : CookieVault) (e : Exchange) (principal : String) : Exchange :=
  e.queue (v.cookie e.request (v.cipher.encrypt principal) v.ttl)

def clear (v : CookieVault) (e : Exchange) : Exchange := e.queue (v.cookie e.request "" 0)

/-- The time to live that tokens are held to. -/
def tokenTtl (v : CookieVault) : Option Int := if 0 < v.ttl then some v.ttl else none

def retrieve (v : CookieVault) (request : Request) : Option String :=
  match request.cookies.find? v.name with
  | none => none
  | some token => if token = "" then none else v.cipher.decrypt? token v.tokenTtl

end CookieVault

inductive Vault where
  | session
  | cookie (v : CookieVault)

namespace Vault

/-- Remember a user; without a session this comes to nothing. -/
def store (v : Vault) (e : Exchange) (principal : String) : Exchange :=
  match v with
  | session => { e with session := e.session.map ({ · with principal := some principal }) }
  | cookie v => v.store e principal

/-- The remembered user. -/
def retrieve (v : Vault) (e : Exchange) : Option String :=
  match v with
  | session => e.session.bind (·.principal)
  | cookie v => v.retrieve e.request

/-- Forget the user. -/
def clear (v : Vault) (e : Exchange) : Exchange :=
  match v with
  | session => { e with session := e.session.map ({ · with principal := none }) }
  | cookie v => v.clear e

end Vault

end IdentityBridge
