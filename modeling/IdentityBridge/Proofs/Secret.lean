import Mathlib
import IdentityBridge.Proofs.Session.Turn

/-! Requests without the secret. Where the sender of headers must prove itself by a secret, a request
that does not carry it names nobody, whatever its other headers say: the authentication comes out the
same for any two such requests, changes no page, and returns nobody but a remembered user that is
trusted. -/

namespace IdentityBridge

/-- Requests that may differ in their attributes, in the address of the server, and in all headers but
one. -/
structure Request.Alike (header : String) (r r' : Request) : Prop where
  path : r'.path = r.path
  cookies : r'.cookies = r.cookies
  serverName : r'.serverName = r.serverName
  isSecure : r'.isSecure = r.isSecure
  header : r'.header? header = r.header? header

/-- The same exchange for another request. -/
def Exchange.asking (e : Exchange) (r : Request) : Exchange := { e with request := r }

def World.asking (w : World) (r : Request) : World := { w with exchange := w.exchange.asking r }

/-! ### Reading the secret -/

namespace Assertion.Source

variable {p : Properties} {secretField : String} {r r' : Request}

/-- A secret is required in a field of the headers, and what the request has there, if it has anything
there, is not the secret. -/
structure Unproven (p : Properties) (secretField : String) (r : Request) : Prop where
  required : p.get? "secret_field" = some secretField
  ne_empty : secretField ≠ ""
  differs (text : String) : headers.field p r secretField = .ok (some text) →
    p.get? "secret_value" ≠ some text

theorem field_of_alike (hr : r.Alike secretField r') :
    headers.field p r' secretField = headers.field p r secretField :=
  field_congr (congrArg Except.ok hr.header)

theorem Unproven.alike (h : Unproven p secretField r) (hr : r.Alike secretField r') :
    Unproven p secretField r' where
  required := h.required
  ne_empty := h.ne_empty
  differs text ht := h.differs text (by rwa [field_of_alike hr] at ht)

theorem isTrusted_of_unproven (h : Unproven p secretField r) : headers.isTrusted p r ≠ .ok true := by
  unfold isTrusted
  simp only [h.required, if_neg h.ne_empty]
  split
  · simp
  · next text ht => simp [h.differs text ht]
  · simp
  · simp

/-- There is no uid then, though reading the field of the secret may still meet a fault. -/
theorem uid_of_unproven (h : Unproven p secretField r) :
    headers.uid p r = (headers.isTrusted p r).map fun _ => none := by
  have ht := isTrusted_of_unproven h
  rw [uid]
  cases hi : headers.isTrusted p r with
  | error fault => rfl
  | ok isTrusted =>
    cases isTrusted with
    | true => exact absurd hi ht
    | false => rfl

/-- Whether a request carries the secret depends on the field of the secret alone. -/
theorem isTrusted_of_alike (h : p.get? "secret_field" = some secretField)
    (hr : r.Alike secretField r') : headers.isTrusted p r' = headers.isTrusted p r := by
  simp only [isTrusted, h, field_of_alike hr]

end Assertion.Source

namespace Authenticator

open Assertion Source

variable {x : Authenticator} {a a' : Assertion} {w : World} {r' : Request}

/-! ### Authentications that nobody is named in -/

/-- An assertion names nobody, neither the remembered user nor another one. -/
def Nameless (x : Authenticator) (a : Assertion) : Prop := ∀ user, ¬ x.Names a user

theorem assertedUser_of_unproven {p : Properties} {secretField : String} {r : Request}
    (h : Unproven p secretField r) : x.assertedUser (headers.assertion p r) =
      (headers.isTrusted p r).map fun _ => none := by
  change x.assertedUser { headers.assertion p r with uid := headers.uid p r } = _
  rw [uid_of_unproven h, assertedUser]
  cases headers.isTrusted p r <;> rfl

theorem nameless_of_unproven {p : Properties} {secretField : String} {r : Request}
    (h : Unproven p secretField r) : x.Nameless (headers.assertion p r) := by
  intro user hu
  rw [← assertedUser_eq_some, assertedUser_of_unproven h] at hu
  cases hi : headers.isTrusted p r <;> simp [hi, Except.map] at hu

/-- What comes of a request that names nobody: a remembered and trusted user is kept, or there is no
user, or reading the secret meets a fault. -/
inductive Idle (x : Authenticator) (w : World) : Except Fault (Option Reference) → World → Prop where
  | kept (principal : String) (held : x.vault.retrieve w.exchange = some principal)
      (trusted : x.configuration.trustsVault = true ∨ x.configuration.keepsOnMissing = true) :
      Idle x w (.ok (some (x.configuration.resolve principal))) w
  | nobody : Idle x w (.ok none) w
  | forgotten : Idle x w (.ok none) (x.forget w)
  | failed (fault : Fault) : Idle x w (.error fault) w

variable {result : Except Fault (Option Reference)} {w' : World}

theorem Idle.frame (h : Idle x w result w') : w'.directory = w.directory ∧ w'.heard = w.heard := by
  cases h <;> exact ⟨rfl, rfl⟩

theorem Idle.returned {user : Reference} (h : Idle x w (.ok (some user)) w') :
    (x.configuration.trustsVault = true ∨ x.configuration.keepsOnMissing = true) ∧
      ∃ principal, x.vault.retrieve w.exchange = some principal ∧
        x.configuration.resolve principal = user := by
  cases h with
  | kept principal held trusted => exact ⟨trusted, principal, held, rfl⟩

theorem settle_idle (h : x.Nameless a) : Idle x w (x.settle a w).1 (x.settle a w).2 := by
  have hm := callsFor_move x a (x.vault.retrieve w.exchange)
  rw [settle_eq]
  generalize hr : x.vault.retrieve w.exchange = remembered at hm ⊢
  generalize x.move a remembered = move at hm ⊢
  cases hm with
  | keep principal trusted => exact .kept principal hr trusted
  | confirm user names => exact absurd names (h user)
  | fail _ fault => exact .failed fault
  | pass => exact .nobody
  | forget => exact .forgotten
  | enrol user names => exact absurd names (h user)
  | replace _ user names => exact absurd names (h user)

/-! ### Another request -/

theorem clear_asking {e : Exchange} (hs : r'.serverName = e.request.serverName)
    (ht : r'.isSecure = e.request.isSecure) (v : Vault) :
    v.clear (e.asking r') = (v.clear e).asking r' := by
  cases v with
  | session => rfl
  | cookie v =>
    have hc : v.cookie r' "" 0 = v.cookie e.request "" 0 := by
      simp only [CookieVault.cookie, hs, ht]
    simp only [Vault.clear, CookieVault.clear, Exchange.asking, hc, Exchange.queue]

theorem retrieve_asking {e : Exchange} (hc : r'.cookies = e.request.cookies) (v : Vault) :
    v.retrieve (e.asking r') = v.retrieve e := by
  cases v with
  | session => rfl
  | cookie v => simp only [Vault.retrieve, CookieVault.retrieve, Exchange.asking, hc]

theorem forget_asking {header : String} (hr : w.exchange.request.Alike header r') :
    x.forget (w.asking r') = (x.forget w).asking r' := by
  rw [forget, World.asking, clear_asking hr.serverName hr.isSecure]
  rfl

theorem settle_asking {header : String} (hr : w.exchange.request.Alike header r')
    (hn : x.Nameless a) (he : x.assertedUser a' = x.assertedUser a) :
    x.settle a' (w.asking r') = ((x.settle a w).1, (x.settle a w).2.asking r') := by
  have hv : x.vault.retrieve (w.asking r').exchange = x.vault.retrieve w.exchange :=
    retrieve_asking hr.cookies x.vault
  have hm := callsFor_move x a (x.vault.retrieve w.exchange)
  rw [settle_eq, settle_eq, hv, move_congr he]
  generalize x.vault.retrieve w.exchange = remembered at hm ⊢
  generalize x.move a remembered = move at hm ⊢
  cases hm with
  | keep => rfl
  | confirm => rfl
  | fail => rfl
  | pass => rfl
  | forget => simp only [Move.perform, forget_asking hr]
  | enrol user names => exact absurd names (hn user)
  | replace _ user names => exact absurd names (hn user)

theorem logOut_asking {header : String} (hr : w.exchange.request.Alike header r')
    (hl : a'.logoutUrl none = a.logoutUrl none) :
    x.logOut a' (w.asking r') = (x.logOut a w).asking r' := by
  rw [logOut, hl]
  exact forget_asking (w := { w with exchange := { w.exchange with redirects := _ } }) hr

theorem authenticate_asking {header : String} (hr : w.exchange.request.Alike header r')
    (hn : x.Nameless (x.assertion w.exchange.request))
    (he : x.assertedUser (x.assertion r') = x.assertedUser (x.assertion w.exchange.request))
    (hl : (x.assertion r').logoutUrl none = (x.assertion w.exchange.request).logoutUrl none) :
    x.authenticate (w.asking r') = ((x.authenticate w).1, (x.authenticate w).2.asking r') := by
  have hasked (w : World) : (w.asking r').exchange.request = r' := rfl
  have hr' : (x.settle (x.assertion w.exchange.request) w).2.exchange.request.Alike header r' := by
    rwa [request_settle]
  simp only [authenticate, hasked, settle_asking hr hn he, request_settle, hr.path]
  cases x.isLogout w.exchange.request.path with
  | error fault => rfl
  | ok logout =>
    cases logout with
    | false => rfl
    | true => simp only [logOut_asking hr' hl]

/-! ### Without the secret -/

/-- A request without the secret has the same outcome as any other one that is like it but for
attributes, server address and other headers. No page changes, nobody hears of a user, and a returned
user was remembered and is trusted. -/
theorem no_influence {secretField : String}
    (hx : x.assertion = headers.assertion x.configuration.properties)
    (hw : Unproven x.configuration.properties secretField w.exchange.request)
    (hr : w.exchange.request.Alike secretField r') :
    x.authenticate (w.asking r') = ((x.authenticate w).1, (x.authenticate w).2.asking r') ∧
    (x.authenticate w).2.directory = w.directory ∧ (x.authenticate w).2.heard = w.heard ∧
    ∀ user, (x.authenticate w).1 = .ok (some user) →
      (x.configuration.trustsVault = true ∨ x.configuration.keepsOnMissing = true) ∧
        ∃ principal, x.vault.retrieve w.exchange = some principal ∧
          x.configuration.resolve principal = user := by
  have hn : x.Nameless (x.assertion w.exchange.request) := by
    rw [hx]
    exact nameless_of_unproven hw
  have he : x.assertedUser (x.assertion r') = x.assertedUser (x.assertion w.exchange.request) := by
    rw [hx, assertedUser_of_unproven hw, assertedUser_of_unproven (hw.alike hr),
      isTrusted_of_alike hw.required hr]
  have hl : (x.assertion r').logoutUrl none = (x.assertion w.exchange.request).logoutUrl none := by
    rw [hx]
    rfl
  have hidle := settle_idle (w := w) hn
  obtain ⟨hd, hh⟩ := authenticate_snd x w
  refine ⟨authenticate_asking hr hn he hl, hd.trans hidle.frame.1, hh.trans hidle.frame.2, ?_⟩
  intro user hu
  rw [authenticate_fst, Outcome.bind_eq_ok] at hu
  obtain ⟨_, -, hu⟩ := hu
  rw [hu] at hidle
  exact hidle.returned

/-! ### An example -/

/-- A character of Latin-9, which differs from Latin-1 in eight places. -/
def latin9Char (b : UInt8) : Char :=
  match b.toNat with
  | 0xA4 => '€'
  | 0xA6 => 'Š'
  | 0xA8 => 'š'
  | 0xB4 => 'Ž'
  | 0xB8 => 'ž'
  | 0xBC => 'Œ'
  | 0xBD => 'œ'
  | 0xBE => 'Ÿ'
  | n => Char.ofNat n

def latin9 (bytes : List UInt8) : Text.Charset.Decoding := .text (String.ofList (bytes.map latin9Char))

/-- A bridge behind a sender that shares a secret with it, and that keeps a user when nobody is
asserted. Headers are read in a charset of the platform. -/
def guarded : Configuration := .ofSettings {
  properties := .ofList [
    ("authentication.trusted.header_encoding", "ISO-8859-15"),
    ("authentication.trusted.secret_field", "X-Secret"),
    ("authentication.trusted.secret_value", "5 €"),
    ("authentication.trusted.isPersistenceStoreTrustedOnMissingAuthentication", "true")]
  logoutPage := some "/bye"
  platform := { charsets := fun name => if name = "iso_8859_15" then some latin9 else none } }

def keeper : Authenticator where
  configuration := guarded
  assertion := headers.assertion guarded.properties
  vault := .session

def erin : Reference := .inSpace "xwiki" "XWiki" "erin"

/-- One who has guessed the secret wrongly asserts to be somebody else than the remembered user. -/
def forged : World where
  directory := .empty
  exchange := {
    request := { headers := .ofList [("x-secret", "6 \xA4"), ("remote_user", "mallory")] }
    session := some { principal := some erin.serialize } }

/-- Yet another user, from elsewhere, with the same guess. -/
def reforged : Request where
  headers := .ofList [("remote_user", "bob"), ("x-secret", "6 \xA4"), ("x-roles", "admin")]
  serverUrl := "https://elsewhere"

theorem guess_decoded : decode guarded.properties.platform.charsets (Text.trim "ISO-8859-15") "6 \xA4" =
    .ok "6 €" := by
  have hz : Text.Charset.isNulled (Text.trim "ISO-8859-15") = false := by decide +kernel
  have hn : Text.Charset.ofName? (Text.trim "ISO-8859-15") = none := by decide +kernel
  have hf : Text.Charset.folded (Text.trim "ISO-8859-15") = "iso_8859_15" := by decide +kernel
  have hb : Text.Charset.carried? "6 \xA4" = some [0x36, 0x20, 0xA4] := by decide +kernel
  have hc : guarded.properties.platform.charsets "iso_8859_15" = some latin9 := by rfl
  simp only [decode, hz, hn, hf, hb, hc, Bool.false_eq_true, if_false]
  rfl

theorem forged_secret : headers.field guarded.properties forged.exchange.request "X-Secret" =
    .ok (some "6 €") := by
  have hp : guarded.properties.get? headers.charsetProperty = some "ISO-8859-15" := by cbv
  have hr : headers.raw forged.exchange.request "X-Secret" = .ok (some "6 \xA4") := by
    rw [raw, show forged.exchange.request.header? "X-Secret" = some "6 \xA4" by decide +kernel]
  have hname : Text.blank "X-Secret" = false := by decide
  have hvalue : Text.blank "6 \xA4" = false := by decide
  have hcharset : Text.blank "ISO-8859-15" = false := by decide
  simp only [field, hname, hr, hvalue, hp, hcharset, guess_decoded, Bool.false_eq_true, if_false]
  rfl

theorem forged_untrusted : headers.isTrusted guarded.properties forged.exchange.request = .ok false := by
  have hf : guarded.properties.get? "secret_field" = some "X-Secret" := by cbv
  have hv : guarded.properties.get? "secret_value" = some "5 €" := by cbv
  simp only [isTrusted, hf, forged_secret, hv]
  rfl

theorem forged_unproven : Unproven guarded.properties "X-Secret" forged.exchange.request := by
  refine ⟨by cbv, by decide, fun text ht hs => ?_⟩
  have hv : guarded.properties.get? "secret_value" = some "5 €" := by cbv
  rw [forged_secret] at ht
  rw [hv] at hs
  cases ht
  exact absurd hs (by decide)

theorem forged_alike : forged.exchange.request.Alike "X-Secret" reforged :=
  ⟨rfl, rfl, rfl, rfl, by cbv⟩

theorem keeper_keeps : (keeper.authenticate forged).1 = .ok (some erin) := by
  have hl : keeper.isLogout forged.exchange.request.path = .ok false := by cbv
  have ht : keeper.configuration.trustsVault = false := by cbv
  have hk : keeper.configuration.keepsOnMissing = true := by cbv
  have hu : keeper.assertedUser (keeper.assertion forged.exchange.request) = .ok none := by
    change keeper.assertedUser (headers.assertion guarded.properties _) = _
    rw [assertedUser_of_unproven forged_unproven, forged_untrusted]
    rfl
  have hv : keeper.vault.retrieve forged.exchange = some erin.serialize := rfl
  have hr : keeper.configuration.resolve erin.serialize = erin :=
    Reference.resolve_serialize (.inl (by decide)) _
  rw [authenticate_fst, hl, Outcome.ok_bind, settle_eq, hv]
  simp only [move, ht, Bool.false_eq_true, if_false, hu, hk, if_true, hr, Move.perform]

/-- Both are answered with the remembered user. -/
theorem forged_in_vain :
    Unproven keeper.configuration.properties "X-Secret" forged.exchange.request ∧
      forged.exchange.request.Alike "X-Secret" reforged ∧
      (keeper.authenticate forged).1 = .ok (some erin) ∧
      keeper.authenticate (forged.asking reforged) =
        (.ok (some erin), (keeper.authenticate forged).2.asking reforged) := by
  refine ⟨forged_unproven, forged_alike, keeper_keeps, ?_⟩
  rw [(no_influence rfl forged_unproven forged_alike).1, keeper_keeps]

end Authenticator

end IdentityBridge
