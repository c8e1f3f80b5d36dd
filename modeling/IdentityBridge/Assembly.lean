import IdentityBridge.Encryption
import IdentityBridge.Service

/-! Assembly of the components that a configuration asks for. Where several cannot be built, the source
of assertions is blamed before the vault. -/

namespace IdentityBridge

inductive AssemblyError where
  | configuration (e : ConfigurationError)
  | encryption (e : EncryptionError)
deriving DecidableEq, Repr

def AssemblyError.report : AssemblyError → Report
  | configuration e => e.report
  | encryption e => e.report

namespace Assembly

/-- The kinds of vaults, by the hints that choose them. -/
inductive VaultKind where
  | session
  | cookie
deriving DecidableEq, Repr

def VaultKind.name : VaultKind → String
  | session => "session"
  | cookie => "cookie"

def VaultKind.all : List VaultKind := [session, cookie]

def VaultKind.ofName? (name : String) : Option VaultKind := VaultKind.all.find? (·.name = name)

/-- The names of the sources of assertions, in order. -/
def sourceNames : List String := Text.sortSet (Assertion.Source.all.map (·.name))

/-- The part of requests that assertions are read from. -/
def source (c : Configuration) : Except AssemblyError Assertion.Source :=
  match Assertion.Source.ofName? c.adapterHint with
  | some source => .ok source
  | none => .error (.configuration (.unknownAdapter c.adapterHint sourceNames))

def vaultKind (c : Configuration) : Except AssemblyError VaultKind :=
  match VaultKind.ofName? c.vaultHint with
  | some kind => .ok kind
  | none => .error (.configuration (.unknownStore c.vaultHint (VaultKind.all.map (·.name))))

/-- The vault that keeps users in cookies. -/
def cookieVault (c : Configuration) (now : Crypto.Moment) : Except AssemblyError CookieVault :=
  match Cipher.ofSecret c.settings.encryptionKey now with
  | .error e => .error (.encryption e)
  | .ok cipher => .ok (.make cipher c.settings.cookiePrefix c.settings.cookiePath
      c.settings.cookieDomains c.vaultTtl)

def vault (c : Configuration) (now : Crypto.Moment) : Except AssemblyError Vault := do
  match ← vaultKind c with
  | .session => return .session
  | .cookie => return .cookie (← cookieVault c now)

/-- Accounts with the configured groups sharded. -/
def accounts (c : Configuration) : Accounts where
  shards :=
    if c.settings.shardedGroups = [] then none
    else some { names := c.settings.shardedGroups, mainWiki := c.mainWiki }

def authenticator (c : Configuration) (now : Crypto.Moment) (listeners : Nat) :
    Except AssemblyError Authenticator := do
  let source ← source c
  let vault ← vault c now
  return {
    configuration := c
    assertion := source.assertion c.properties
    vault, listeners
    accounts := accounts c }

end Assembly

end IdentityBridge
