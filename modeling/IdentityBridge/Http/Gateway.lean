import IdentityBridge.Http.Address
import IdentityBridge.Http.CookieHeader
import IdentityBridge.Service

/-! The gateway in front of an application. It authenticates every call outside the excluded paths,
tells the application the user, and sets the queued cookies on its reply; on a logout, redirections lead
by way of the external logout. A call whose identity cannot be mapped does not reach the application. -/

namespace IdentityBridge.Http

structure Call where
  scheme : String := "http"
  server : String × Nat := ("localhost", 80)
  path : String := "/"
  query : String := ""
  /-- Headers in order, with their names in lower case. -/
  headers : List (String × String) := []
  attributes : Table String Datum := .empty
  session : Option Session := none

/-- What the application replies. -/
structure Reply where
  status : Nat := 200
  location : Option String := none

/-- What the client gets. -/
structure Response where
  status : Nat
  location : Option String := none
  /-- The user that the application was told, if it was told of one or of none. -/
  user : Option (Option String) := none
  cookies : List Cookie := []
  /-- The body of a call that did not reach the application. -/
  body : Option Datum := none

/-- Whether the application was reached. -/
def Response.called (r : Response) : Bool := r.body.isNone

namespace Call

/-- The address of a call; the host header names the server if there is one. -/
def address (c : Call) : Address :=
  let authority := match c.headers.lookup "host" with
    | some host => host
    | none => Address.serverAuthority c.scheme c.server.1 c.server.2
  let path := if c.query = "" then c.path else c.path ++ "?" ++ c.query
  .ofParts c.scheme authority path

/-- The request of a call. -/
def request (c : Call) : Request where
  path := c.address.path
  headers := Request.foldHeaders c.headers
  attributes := c.attributes
  cookies := CookieHeader.read ((c.headers.filter (·.1 = "cookie")).map (·.2))
  serverName := if c.address.host = "" then "localhost" else c.address.host
  serverUrl := c.address.serverUrl
  isSecure := c.address.isSecure

end Call

structure Gateway where
  service : Service
  /-- The starts of paths that are not authenticated. -/
  excluded : List String

namespace Gateway

/-- The paths that are excluded when no others are given. -/
def defaultExcluded : List String := ["/docs", "/redoc", "/openapi.json", "/health", "/ping"]

def make (service : Service) (excluded : List String) : Gateway where
  service
  excluded := if excluded = [] then defaultExcluded else excluded

def excludes (g : Gateway) (path : String) : Bool :=
  g.excluded.any fun start => start.toList.isPrefixOf path.toList

/-- The response to a call whose identity cannot be mapped. -/
def misconfigured (report : Report) : Response where
  status := 500
  body := some (.record [
    ("error", .text "authentication_misconfigured"), ("message", .text report.message)])

def isRedirection (status : Nat) : Bool := 300 ≤ status && status < 400

/-- A location that starts with a slash, with the server before it; others as they are. -/
def absolute (serverUrl location : String) : String :=
  match location.toList with
  | '/' :: _ => serverUrl ++ location
  | _ => location

/-- The location of a response after the authentication of its request. -/
def redirect (g : Gateway) (e : Exchange) (reply : Reply) : Option String :=
  if !isRedirection reply.status then reply.location
  else
    match reply.location with
    | none => none
    | some location =>
      if location = "" then some location
      else
        match g.service.authenticator.redirect e (absolute e.request.serverUrl location) with
        | none => some location
        | some redirect => if redirect = "" then some location else some redirect

/-- Answer a call, with the reply that the application gives if it is reached. -/
def handle (g : Gateway) (call : Call) (reply : Reply) (directory : Directory)
    (heard : List (Nat × Reference)) : Except Fault Response × World :=
  let w : World := { directory, heard, exchange := { request := call.request, session := call.session } }
  if g.excludes call.address.path then
    (.ok { status := reply.status, location := reply.location }, w)
  else
    match g.service.check w with
    | (.error fault, w) =>
      match fault.report? with
      | some report => (.ok (misconfigured report), w)
      | none => (.error fault, w)
    | (.ok user, w) =>
      (.ok {
        status := reply.status
        location := g.redirect w.exchange reply
        user := some user
        cookies := w.exchange.cookies }, w)

end Gateway

end IdentityBridge.Http
