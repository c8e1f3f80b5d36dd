import IdentityBridge.Accounts
import IdentityBridge.Entitlement
import IdentityBridge.Vault

/-! Authentication of one request. A user that the vault remembers may be taken as it is; otherwise the
asserted user is. A user other than the remembered one is enrolled: the profile is created or updated,
memberships are synchronized, the vault remembers the user and listeners hear of it. A request to log
out makes the vault forget the user, whatever else has happened. -/

namespace IdentityBridge

structure Authenticator where
  configuration : Configuration
  /-- What each request asserts. -/
  assertion : Request → Assertion
  vault : Vault
  accounts : Accounts := {}
  /-- How many listeners are to hear of enrolled users. -/
  listeners : Nat := 0

/-- What an authentication reads and changes. -/
structure World where
  directory : Directory
  exchange : Exchange
  /-- Which listener has heard of which user, oldest first. -/
  heard : List (Nat × Reference) := []

namespace Authenticator

/-! ### The asserted user -/

/-- A text with something in it besides blanks. -/
def filled (text : Option String) : Option String := text.filter fun s => !Text.blank s

/-- The profile page of a user name. -/
def profileOf (c : Configuration) (name : String) : Reference where
  wiki := c.mainWiki
  spaces := [c.userSpace]
  name := UserName.normalize c.caseStyle c.nameReplacements name

/-- The asserted user, if there is one. The user name must be the uid. -/
def assertedUser (x : Authenticator) (a : Assertion) : Except Fault (Option Reference) := do
  match filled (← a.uid) with
  | none => return none
  | some uid =>
    match filled (← a.name) with
    | none => throw (.emptyName uid)
    | some name =>
      if uid = name then return some (profileOf x.configuration name)
      else throw (.differentName uid name)

/-- The asserted facts about the user, trimmed, without blank ones. -/
def assertedFacts (x : Authenticator) (a : Assertion) : Except Fault Fields := do
  let facts ← x.configuration.factMappings.entries.filterMapM fun (fact, property) => do
    return (filled (← a.property property)).map fun value => (fact, Text.trim value)
  return .ofList facts

/-! ### Enrolment -/

def profileComment : String := "Trusted authenticator user profile synchronization"

def groupComment : String := "Trusted authentication group synchronization"

/-- See to it that there is a profile. A missing one must be created; an existing one stays usable when
its update fails. -/
def ensureProfile (x : Authenticator) (user : Reference) (facts : Fields) (d : Directory) :
    Bool × Directory :=
  match d.exists? user with
  | .error _ => (false, d)
  | .ok false => x.accounts.create user facts d
  | .ok true =>
    if facts.isEmpty then (true, d)
    else
      match x.accounts.update user facts profileComment d with
      | .ok (_, d) => (true, d)
      | .error _ => (true, d)

/-- Synchronize the memberships of a user; nothing is done when the delta cannot be told. -/
def synchronizeGroups (x : Authenticator) (a : Assertion) (user : Reference) (d : Directory) :
    Except Fault Bool × Directory :=
  match Entitlement.delta x.configuration a user d with
  | .error fault => (.error fault, d)
  | .ok (none, d) => (.ok false, d)
  | .ok (some delta, d) =>
    if delta.isEmpty then (.ok true, d)
    else
      let (_, d) := x.accounts.synchronizeMembership user delta.joins delta.creates delta.leaves
        groupComment d
      (.ok true, d)

/-- Synchronize the profile and the memberships of a user. -/
def synchronizeUser (x : Authenticator) (a : Assertion) (user : Reference) (d : Directory) :
    Except Fault Bool × Directory :=
  match x.assertedFacts a with
  | .error fault => (.error fault, d)
  | .ok facts =>
    match x.ensureProfile user facts d with
    | (false, d) => (.ok false, d)
    | (true, d) => x.synchronizeGroups a user d

/-- Tell every listener of a user. -/
def announce (x : Authenticator) (user : Reference) (w : World) : World :=
  { w with heard := w.heard ++ (List.range x.listeners).map fun listener => (listener, user) }

/-- Synchronize a user, and if this succeeds remember and announce the user. -/
def enrol (x : Authenticator) (a : Assertion) (user : Reference) (w : World) :
    Except Fault (Option Reference) × World :=
  let (result, directory) := x.synchronizeUser a user w.directory
  let w := { w with directory }
  match result with
  | .error fault => (.error fault, w)
  | .ok false => (.ok none, w)
  | .ok true =>
    (.ok (some user),
      x.announce user { w with exchange := x.vault.store w.exchange user.serialize })

/-! ### Outcomes -/

/-- Make the vault forget the user. -/
def forget (x : Authenticator) (w : World) : World :=
  { w with exchange := x.vault.clear w.exchange }

/-- No user is asserted: a remembered one is kept if that is configured and forgotten if not. -/
def withoutUser (x : Authenticator) (remembered : Option String) (w : World) :
    Option Reference × World :=
  match remembered with
  | none => (none, w)
  | some principal =>
    if x.configuration.keepsOnMissing then (some (x.configuration.resolve principal), w)
    else (none, x.forget w)

/-- A user is asserted: the remembered one needs nothing more, another one is forgotten first. -/
def withUser (x : Authenticator) (a : Assertion) (remembered : Option String) (user : Reference)
    (w : World) : Except Fault (Option Reference) × World :=
  match remembered with
  | none => x.enrol a user w
  | some principal =>
    if principal = user.serialize then (.ok (some user), w) else x.enrol a user (x.forget w)

/-- Authenticate by the assertion. -/
def identify (x : Authenticator) (a : Assertion) (remembered : Option String) (w : World) :
    Except Fault (Option Reference) × World :=
  match x.assertedUser a with
  | .error fault => (.error fault, w)
  | .ok none =>
    let (user, w) := x.withoutUser remembered w
    (.ok user, w)
  | .ok (some user) => x.withUser a remembered user w

/-- Authenticate by the vault if it is trusted, and otherwise by the assertion. -/
def settle (x : Authenticator) (a : Assertion) (w : World) :
    Except Fault (Option Reference) × World :=
  match x.vault.retrieve w.exchange with
  | none => x.identify a none w
  | some principal =>
    if x.configuration.trustsVault then (.ok (some (x.configuration.resolve principal)), w)
    else x.identify a (some principal) w

/-! ### Logging out -/

/-- Whether a pattern matches the start of a path. -/
def matchesPath (pattern path : String) (characters : Pattern.CharacterNames := Pattern.nameless) :
    Except Fault Bool :=
  match Pattern.read pattern characters with
  | .ok p => .ok (p.matchStart? path).isSome
  | .error cause => .error (.pattern cause)

/-- Whether a path logs out. -/
def isLogout (x : Authenticator) (path : String) : Except Fault Bool :=
  matchesPath x.configuration.logoutPattern path x.configuration.characters

/-- Log out: redirections lead by way of the external logout if there is one, and the user is
forgotten. -/
def logOut (x : Authenticator) (a : Assertion) (w : World) : World :=
  x.forget { w with
    exchange := { w.exchange with
      redirects := w.exchange.redirects || (a.logoutUrl none).isSome } }

/-- Authenticate a request, and log out if its path says so. A fault of the logout pattern outranks
every other outcome. -/
def authenticate (x : Authenticator) (w : World) : Except Fault (Option Reference) × World :=
  let a := x.assertion w.exchange.request
  let (result, w) := x.settle a w
  match x.isLogout w.exchange.request.path with
  | .error fault => (.error fault, w)
  | .ok false => (result, w)
  | .ok true => (result, x.logOut a w)

/-- Where a redirection leads after the authentication; nothing if it stays as it is. -/
def redirect (x : Authenticator) (e : Exchange) (location : String) : Option String :=
  if e.redirects then (x.assertion e.request).logoutUrl (some location) else none

end Authenticator

end IdentityBridge
