import IdentityBridge.Text.Case

/-! Addresses of requests: a scheme, an authority and a path. The path ends where a query or a fragment
begins; the host is the authority without user, port and brackets, in lower case. -/

namespace IdentityBridge.Http

structure Address where
  scheme : String
  authority : String
  path : String
deriving DecidableEq, Repr

namespace Address

/-- The port that an address of a scheme need not name. -/
def defaultPort? (scheme : String) : Option Nat :=
  [("http", 80), ("https", 443), ("ws", 80), ("wss", 443)].lookup scheme

/-- The schemes of encrypted connections. -/
def secureSchemes : List String := ["https", "wss"]

/-- The authority of a server, with its port unless that goes without saying. -/
def serverAuthority (scheme host : String) (port : Nat) : String :=
  if defaultPort? scheme = some port then host else host ++ ":" ++ toString port

/-- Tabs and line ends count for nothing in an address. -/
def isVoid (c : Char) : Bool := c = '\t' || c = '\n' || c = '\r'

def endsAuthority (c : Char) : Bool := c = '/' || c = '?' || c = '#'

def endsPath (c : Char) : Bool := c = '?' || c = '#'

/-- The address that a scheme, an authority and a path with its query are written as. -/
def ofParts (scheme authority path : String) : Address :=
  let text := (authority ++ path).toList.filter fun c => !isVoid c
  { scheme := Text.lower scheme
    authority := String.ofList (text.takeWhile fun c => !endsAuthority c)
    path := String.ofList ((text.dropWhile fun c => !endsAuthority c).takeWhile fun c => !endsPath c) }

/-- What comes after the last occurrence of a character, or everything if there is none. -/
def afterLast (d : Char) (cs : List Char) : List Char :=
  (cs.reverse.takeWhile (· ≠ d)).reverse

/-- The host; a zone after a percent sign keeps its case. -/
def host (a : Address) : String :=
  let text := afterLast '@' a.authority.toList
  let name :=
    match text.dropWhile (· ≠ '[') with
    | _ :: bracketed => bracketed.takeWhile (· ≠ ']')
    | [] => text.takeWhile (· ≠ ':')
  String.ofList (Text.lowerChars (name.takeWhile (· ≠ '%')) ++ name.dropWhile (· ≠ '%'))

/-- The address without its path. -/
def serverUrl (a : Address) : String := a.scheme ++ "://" ++ a.authority

def isSecure (a : Address) : Bool := secureSchemes.contains a.scheme

end Address

end IdentityBridge.Http
