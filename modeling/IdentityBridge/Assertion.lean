import IdentityBridge.Exchange
import IdentityBridge.Fault
import IdentityBridge.Pattern
import IdentityBridge.Properties
import IdentityBridge.Text.Charset
import IdentityBridge.Text.Percent

/-! What the layer in front of the application asserts about the user of a request. Assertions are read
from headers or attributes of the request, by names and in a charset that are configured. Asking for
one of them may meet a fault. -/

namespace IdentityBridge

/-- The facts asserted about a user. -/
structure Assertion where
  uid : Except Fault (Option String)
  name : Except Fault (Option String)
  property : String → Except Fault (Option String)
  /-- The roles of the user; nothing if they cannot be told. -/
  roles : Except Fault (Option (List String))
  /-- Where logging out goes on, for a redirection to a location if one is given. -/
  logoutUrl : Option String → Option String

namespace Assertion

/-- Whether the user holds a role; a user whose roles cannot be told holds none. -/
def holds (a : Assertion) (role : String) : Except Fault Bool := do
  match ← a.roles with
  | some roles => return roles.contains role
  | none => return false

/-- Whether the user holds one of some roles. -/
def holdsAny (a : Assertion) : List String → Except Fault Bool
  | [] => .ok false
  | role :: rest => do
    if ← a.holds role then return true
    a.holdsAny rest

/-! ### Assertions in requests -/

/-- The part of a request that assertions are read from. -/
inductive Source where
  | headers
  | attributes
deriving DecidableEq, Repr

namespace Source

def name : Source → String
  | headers => "headers"
  | attributes => "attributes"

def all : List Source := [headers, attributes]

def ofName? (name : String) : Option Source := all.find? (·.name = name)

/-- The property that names the charset of the values. -/
def charsetProperty : Source → String
  | headers => "header_encoding"
  | attributes => "attribute_encoding"

/-- The value of a field as it was transported. -/
def raw (s : Source) (r : Request) (field : String) : Except Fault (Option String) :=
  match s with
  | headers => .ok (r.header? field)
  | attributes => r.attributeText field

/-- What becomes of a value, given what its bytes mean. -/
def decoded (value : String) : Text.Charset.Decoding → Except Fault String
  | .text s => .ok s
  | .meaningless => .ok value
  | .surrogates => .error .surrogates

/-- Read a transported value in a charset, if it is the name of one. A value that carries no bytes stays
as it is; for others an encoding that is not one of texts is a fault. -/
def decode (charsets : Text.CharsetNames) (charset value : String) : Except Fault String :=
  if Text.Charset.isNulled charset then .error .nullInCharset
  else
    match Text.Charset.ofName? charset with
    | some (.charset c) => .ok (c.reread value)
    | some .foreign => if (Text.Charset.carried? value).isSome then .error .foreignCharset else .ok value
    | none =>
      match charsets (Text.Charset.folded charset), Text.Charset.carried? value with
      | some meaning, some bytes => decoded value (meaning bytes)
      | _, _ => .ok value

/-- The value of a field, read in the configured charset. -/
def field (s : Source) (p : Properties) (r : Request) (field : String) :
    Except Fault (Option String) :=
  if Text.blank field then .ok none
  else
    match s.raw r field with
    | .error fault => .error fault
    | .ok none => .ok none
    | .ok (some value) =>
      if Text.blank value then .ok (some value)
      else
        match p.get? s.charsetProperty with
        | none => .ok (some value)
        | some charset =>
          if Text.blank charset then .ok (some value)
          else (decode p.platform.charsets (Text.trim charset) value).map some

/-- The property that names the field of the uid, and the one for the user name; the field for both
unless others are configured. -/
def uidProperty : String := "auth_field"

def nameProperty : String := "id_field"

def defaultField : String := "remote_user"

/-- Whether the request carries the secret that the sender of headers shares, if one is required. -/
def isTrusted (s : Source) (p : Properties) (r : Request) : Except Fault Bool :=
  match s with
  | attributes => .ok true
  | headers =>
    match p.get? "secret_field" with
    | none => .ok true
    | some secretField =>
      if secretField = "" then .ok true
      else
        match field .headers p r secretField with
        | .ok none => .ok false
        | .ok (some secret) => .ok (p.get? "secret_value" = some secret)
        -- the secret is a text, and so has no surrogates
        | .error .surrogates => .ok false
        | .error fault => .error fault

def uid (s : Source) (p : Properties) (r : Request) : Except Fault (Option String) := do
  if ← s.isTrusted p r then s.field p r (p.getD uidProperty defaultField) else return none

/-- The roles in a text, which lie between matches of a pattern. -/
def rolesIn (characters : Pattern.CharacterNames) (separator text : String) :
    Except Fault (List String) :=
  match Pattern.read separator characters with
  | .error cause => .error (.pattern cause)
  | .ok pattern => .ok ((pattern.split text).filterMap fun role => role.filter (· ≠ ""))

/-- The roles in the given fields. -/
def rolesOf (s : Source) (p : Properties) (r : Request) : List String → Except Fault (List String)
  | [] => .ok []
  | name :: rest => do
    let found ← match ← s.field p r (Text.trim name) with
      | none => pure []
      | some value =>
        if Text.blank value then pure []
        else rolesIn p.platform.characters (p.getD "group_value_separator" "\\|") value
    return found ++ (← rolesOf s p r rest)

def roles (s : Source) (p : Properties) (r : Request) : Except Fault (List String) :=
  rolesOf s p r ((p.list? "group_field" ",").getD [])

/-- What stands in a logout address for the location to be redirected to. -/
def locationMark : String := "__REDIRECT__"

/-- The configured logout address, with the location put in if one is given. -/
def logoutUrl (p : Properties) (location : Option String) : Option String :=
  match p.get? "logout_url" with
  | none => none
  | some url =>
    if Text.blank url then none
    else
      match location with
      | none => some url
      | some location => some (Text.Cut.replace locationMark (Text.Percent.encode location) url)

/-- What a request asserts. -/
def assertion (s : Source) (p : Properties) (r : Request) : Assertion where
  uid := s.uid p r
  name := s.field p r (p.getD nameProperty defaultField)
  property := s.field p r
  roles := (s.roles p r).map some
  logoutUrl := logoutUrl p

variable {s : Source} {p : Properties} {r r' : Request}

/-- Reading a field looks at nothing else. -/
theorem field_congr {name : String} (h : s.raw r' name = s.raw r name) :
    s.field p r' name = s.field p r name := by
  unfold field
  rw [h]

/-- Without a charset a field has the value that was transported. -/
theorem field_of_no_charset {name value : String} (hn : Text.blank name = false)
    (hv : s.raw r name = .ok (some value)) (hc : p.get? s.charsetProperty = none) :
    s.field p r name = .ok (some value) := by
  simp only [field, hn, hv, hc, Bool.false_eq_true, if_false, ite_self]

/-- Where no secret is required, the uid in headers is the value of its field. -/
theorem uid_of_no_secret (h : p.get? "secret_field" = none) (r : Request) :
    headers.uid p r = headers.field p r (p.getD uidProperty defaultField) := by
  simp only [uid, isTrusted, h]
  rfl

/-- Where no secret, no charset and no fields of roles are configured, headers assert a uid, a name and no
roles. -/
theorem assertion_of_plain {uid name : String} (hs : p.get? "secret_field" = none)
    (hc : p.get? headers.charsetProperty = none) (hg : p.list? "group_field" "," = none)
    (hub : Text.blank (p.getD uidProperty defaultField) = false)
    (hu : headers.raw r (p.getD uidProperty defaultField) = .ok (some uid))
    (hnb : Text.blank (p.getD nameProperty defaultField) = false)
    (hn : headers.raw r (p.getD nameProperty defaultField) = .ok (some name)) :
    headers.assertion p r = {
      uid := .ok (some uid)
      name := .ok (some name)
      property := headers.field p r
      roles := .ok (some [])
      logoutUrl := logoutUrl p } := by
  rw [assertion, uid_of_no_secret hs, field_of_no_charset hub hu hc, field_of_no_charset hnb hn hc, roles,
    hg]
  rfl

/-- Requests with the same values transported in all fields assert the same. -/
theorem assertion_congr (h : ∀ name, s.raw r' name = s.raw r name) :
    s.assertion p r' = s.assertion p r := by
  have hf (name : String) : s.field p r' name = s.field p r name := field_congr (h name)
  have ht : s.isTrusted p r' = s.isTrusted p r := by
    cases s with
    | attributes => rfl
    | headers => simp only [isTrusted, hf]
  have hr (names : List String) : s.rolesOf p r' names = s.rolesOf p r names := by
    induction names with
    | nil => rfl
    | cons name rest ih => simp only [rolesOf, hf, ih]
  simp only [assertion, uid, roles, hf, ht, hr]
  rw [funext hf]

end Source

end Assertion

end IdentityBridge
