import IdentityBridge.Authenticator
import IdentityBridge.Fallback

/-! The authentication service: the authenticator, and after it the fallback when there is no user and
the configuration does not forbid it. -/

namespace IdentityBridge

structure Service where
  authenticator : Authenticator
  modules : Fallback.Modules := []

namespace Service

def configuration (s : Service) : Configuration := s.authenticator.configuration

/-- The configured fallback authenticator. -/
def fallback? (s : Service) : Except Fault (Option Fallback) :=
  match s.configuration.fallbackPath? with
  | none => .ok none
  | some path => Fallback.ofPath? s.modules path

/-- What the fallback says of a request. -/
def askFallback (s : Service) (r : Request) : Except Fault (Option String) :=
  if s.configuration.isAuthoritative then .ok none
  else s.fallback?.map fun f => f.bind (·.check r)

/-- The written form of the user of a request; nothing for public access. -/
def check (s : Service) (w : World) : Except Fault (Option String) × World :=
  match s.authenticator.authenticate w with
  | (.error fault, w) => (.error fault, w)
  | (.ok (some user), w) => (.ok (some user.serialize), w)
  | (.ok none, w) => (s.askFallback w.exchange.request, w)

end Service

end IdentityBridge
