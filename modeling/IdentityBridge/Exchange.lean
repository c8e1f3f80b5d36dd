import IdentityBridge.Fault
import IdentityBridge.Table
import IdentityBridge.Text.Case

/-! One exchange with a client: the request, the session it belongs to, and what is to be told to the
client with the response, which are cookies and whether redirections lead by way of the external
logout. -/

namespace IdentityBridge

structure Request where
  path : String := "/"
  /-- Headers by their names in lower case. -/
  headers : Table String String := .empty
  attributes : Table String Datum := .empty
  cookies : Table String String := .empty
  serverName : String := "localhost"
  serverUrl : String := "http://localhost"
  isSecure : Bool := false

namespace Request

/-- Headers under their names in lower case; of names that differ in case alone the last one counts. -/
def foldHeaders (headers : List (String × String)) : Table String String :=
  Table.ofList (headers.map fun (name, value) => (Text.lower name, value))

/-- The value of a header, whatever the case of its name. -/
def header? (r : Request) (name : String) : Option String := r.headers.find? (Text.lower name)

/-- The text of an attribute; null counts as missing. -/
def attributeText (r : Request) (name : String) : Except Fault (Option String) :=
  match r.attributes.find? name with
  | none => .ok none
  | some .null => .ok none
  | some d => if d.isWritable then .ok (some d.asText) else .error .longNumber

end Request

/-- A cookie for the client. -/
structure Cookie where
  key : String
  value : String
  /-- The seconds it stays; zero deletes it, and without a number it ends with the client's session. -/
  maxAge : Option Int := none
  path : String := "/"
  domain : Option String := none
  secure : Bool := false
  httpOnly : Bool := true
deriving DecidableEq, Repr

/-- What is kept on the server for a client. -/
structure Session where
  /-- The written form of the user that was authenticated. -/
  principal : Option String := none
  /-- What others keep in the session. -/
  entries : Table String String := .empty
deriving DecidableEq

structure Exchange where
  request : Request
  session : Option Session := none
  /-- The cookies to be set, no two of the same key. -/
  cookies : List Cookie := []
  /-- Whether redirections lead by way of the external logout. -/
  redirects : Bool := false

namespace Exchange

/-- Queue a cookie, in place of one of the same key. -/
def queue (e : Exchange) (cookie : Cookie) : Exchange :=
  { e with cookies := e.cookies.filter (·.key ≠ cookie.key) ++ [cookie] }

end Exchange

/-! ### Clients -/

/-- The cookies that a client holds. -/
abbrev CookieJar := Table String String

namespace CookieJar

/-- Take a cookie from a response. -/
def receive (jar : CookieJar) (cookie : Cookie) : CookieJar :=
  if cookie.maxAge = some 0 then Table.erase jar cookie.key
  else Table.insert jar cookie.key cookie.value

end CookieJar

end IdentityBridge
