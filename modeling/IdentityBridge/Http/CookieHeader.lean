import IdentityBridge.Exchange
import IdentityBridge.Text.Blank
import IdentityBridge.Text.Cut

/-! Cookies in headers: those that a client sends back, all in one header, and the header that sets one.
A value in quotes may hold escapes, a backslash before an octal number or before a character. -/

namespace IdentityBridge.Http.CookieHeader

/-! ### Cookies that are sent back -/

def octalDigit? (c : Char) : Option Nat :=
  if '0' ≤ c ∧ c ≤ '7' then some (c.toNat - '0'.toNat) else none

/-- The character of three octal digits below 256. -/
def octalChar? (a b c : Char) : Option Char := do
  let a ← octalDigit? a
  let b ← octalDigit? b
  let c ← octalDigit? c
  if 3 < a then none else some (Char.ofNat (64 * a + 8 * b + c))

/-- Resolve the escapes of a quoted value, after passing over `skipped` characters. -/
def resolve : Nat → List Char → List Char
  | _, [] => []
  | skipped + 1, _ :: rest => resolve skipped rest
  | 0, c :: rest =>
    if c ≠ '\\' then c :: resolve 0 rest
    else
      match rest with
      | [] => [c]
      | x :: more =>
        match more with
        | y :: z :: _ =>
          match octalChar? x y z with
          | some found => found :: resolve 3 rest
          | none => if x = '\n' then c :: resolve 0 rest else x :: resolve 1 rest
        | _ => if x = '\n' then c :: resolve 0 rest else x :: resolve 1 rest

/-- A value without its quotes, if it has them. -/
def unquote (cs : List Char) : List Char :=
  match cs with
  | '"' :: rest => if rest.getLast? = some '"' then resolve 0 rest.dropLast else cs
  | _ => cs

/-- The key and the value of a part of the header; a part without equal sign is a value alone. -/
def entry? (part : List Char) : Option (String × String) :=
  let (key, value) := (Text.cutFirst '=' part).getD ([], part)
  let key := Text.trimBy Text.isBlank key
  let value := Text.trimBy Text.isBlank value
  if key = [] ∧ value = [] then none
  else some (String.ofList key, String.ofList (unquote value))

/-- The cookies in headers. -/
def read (headers : List String) : Table String String :=
  Table.ofList <| headers.flatMap fun header =>
    (Text.cutAll [';'] header.toList).filterMap entry?

/-- The header that sends cookies back. -/
def write (cookies : List (String × String)) : String :=
  "; ".intercalate (cookies.map fun (key, value) => key ++ "=" ++ value)

/-! ### Cookies that are set -/

/-- The attributes of a cookie, in order of their names. -/
def attributes (c : Cookie) : List String :=
  (match c.domain with
    | some domain => if domain = "" then [] else ["Domain=" ++ domain]
    | none => []) ++
  (if c.httpOnly then ["HttpOnly"] else []) ++
  (match c.maxAge with
    | some age => ["Max-Age=" ++ toString age]
    | none => []) ++
  (if c.path = "" then [] else ["Path=" ++ c.path]) ++
  ["SameSite=lax"] ++
  (if c.secure then ["Secure"] else [])

/-- The header that sets a cookie, with the given text for its value. -/
def set (c : Cookie) (value : String) : String :=
  "; ".intercalate ((c.key ++ "=" ++ value) :: attributes c)

end IdentityBridge.Http.CookieHeader
