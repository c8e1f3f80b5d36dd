import Mathlib
import IdentityBridge.Proofs.Session.Move

/-! Logging out. To forget the user absorbs all that a vault has been told before: a session keeps one
user, and of the cookies of one key only the last is queued. So a logout leaves the exchange as if the
user had been forgotten at once, however the authentication before it came out. -/

namespace IdentityBridge

/-- A cookie that deletes the one of its name at the client. -/
structure Cookie.Deletes (c : Cookie) (name : String) : Prop where
  key : c.key = name
  value : c.value = ""
  maxAge : c.maxAge = some 0

/-! ### Queued cookies -/

namespace Exchange

variable {e : Exchange} {c c' : Cookie}

/-- A cookie takes the place of an earlier one of its key. -/
theorem queue_queue (h : c'.key = c.key) : (e.queue c).queue c' = e.queue c' := by
  simp [queue, h, List.filter_append]

theorem filter_key_queue (e : Exchange) (c : Cookie) :
    (e.queue c).cookies.filter (·.key = c.key) = [c] := by
  simp [queue, List.filter_append]

theorem filter_key_ne_queue (e : Exchange) (c : Cookie) :
    (e.queue c).cookies.filter (·.key ≠ c.key) = e.cookies.filter (·.key ≠ c.key) := by
  simp [queue, List.filter_append]

/-- From now on redirections lead by way of the external logout, if there is one. -/
def redirecting (e : Exchange) (external : Bool) : Exchange :=
  { e with redirects := e.redirects || external }

end Exchange

/-! ### Forgetting -/

theorem CookieVault.deletes_cookie (v : CookieVault) (r : Request) : (v.cookie r "" 0).Deletes v.name :=
  ⟨rfl, rfl, rfl⟩

namespace Vault

theorem clear_store (v : Vault) (e : Exchange) (principal : String) :
    v.clear (v.store e principal) = v.clear e := by
  cases v with
  | session => simp [clear, store, Function.comp_def]
  | cookie v => exact Exchange.queue_queue rfl

theorem clear_clear (v : Vault) (e : Exchange) : v.clear (v.clear e) = v.clear e := by
  cases v with
  | session => simp [clear, Function.comp_def]
  | cookie v => exact Exchange.queue_queue rfl

theorem clear_redirecting (v : Vault) (e : Exchange) (external : Bool) :
    v.clear (e.redirecting external) = (v.clear e).redirecting external := by
  cases v <;> rfl

end Vault

namespace Authenticator

variable {x : Authenticator} {a : Assertion} {w : World}

/-- Whatever an authentication has told the vault is gone when the user is forgotten. -/
theorem clear_settle : x.vault.clear (x.settle a w).2.exchange = x.vault.clear w.exchange :=
  observe_settle (Vault.clear_store x.vault) (Vault.clear_clear x.vault)

/-- A logout leaves the exchange in which the user is forgotten at once. -/
theorem exchange_logOut (w : World) : (x.logOut a w).exchange =
    (x.vault.clear w.exchange).redirecting (a.logoutUrl none).isSome :=
  Vault.clear_redirecting _ _ _

theorem authenticate_logout (hl : x.isLogout w.exchange.request.path = .ok true) :
    x.authenticate w = ((x.settle (x.assertion w.exchange.request) w).1,
      x.logOut (x.assertion w.exchange.request) (x.settle (x.assertion w.exchange.request) w).2) := by
  simp only [authenticate, request_settle, hl]

theorem exchange_authenticate (hl : x.isLogout w.exchange.request.path = .ok true) :
    (x.authenticate w).2.exchange = (x.vault.clear w.exchange).redirecting
      ((x.assertion w.exchange.request).logoutUrl none).isSome := by
  rw [authenticate_logout hl, exchange_logOut, clear_settle]

/-- What holds of an exchange holds after the authentication, if neither vaults nor logouts undo it. -/
theorem authenticate_keeps {Q : Exchange → Prop}
    (hs : ∀ e principal, Q e → Q (x.vault.store e principal)) (hc : ∀ e, Q e → Q (x.vault.clear e))
    (hr : ∀ e external, Q e → Q (e.redirecting external)) (h : Q w.exchange) :
    Q (x.authenticate w).2.exchange := by
  have hset := settle_keeps (a := x.assertion w.exchange.request) hs hc h
  cases hl : x.isLogout w.exchange.request.path with
  | error fault => simpa only [authenticate, request_settle, hl] using hset
  | ok logout =>
    cases logout with
    | false => simpa only [authenticate, request_settle, hl] using hset
    | true =>
      rw [exchange_authenticate hl]
      exact hr _ _ (hc _ h)

/-- There is an external logout where an address for it is configured. -/
theorem isSome_logoutUrl {p : Properties} : (Assertion.Source.logoutUrl p none).isSome = true ↔
    ∃ url, p.get? "logout_url" = some url ∧ Text.blank url = false := by
  unfold Assertion.Source.logoutUrl
  cases p.get? "logout_url" with
  | none => simp
  | some url => cases Text.blank url <;> simp

/-- A request to log out is answered like any other, and leaves nobody remembered. The session keeps
nobody, with all else that is in it; or the one queued cookie of the vault deletes the cookie at the
client, in place of all that were queued for it. Where assertions are read from requests, redirections
lead by way of the external logout if an address for it is configured, or if they did before. -/
theorem logout_forgets (hl : x.isLogout w.exchange.request.path = .ok true) :
    (x.authenticate w).1 = (x.settle (x.assertion w.exchange.request) w).1 ∧
    (x.vault = .session →
      (x.authenticate w).2.exchange.session =
        w.exchange.session.map ({ · with principal := none })) ∧
    (∀ v, x.vault = .cookie v → ∃ c : Cookie, c.Deletes v.name ∧
      (x.authenticate w).2.exchange.cookies.filter (·.key = v.name) = [c] ∧
      (x.authenticate w).2.exchange.cookies.filter (·.key ≠ v.name) =
        w.exchange.cookies.filter (·.key ≠ v.name)) ∧
    ∀ s : Assertion.Source, x.assertion = s.assertion x.configuration.properties →
      ((x.authenticate w).2.exchange.redirects = true ↔
        (∃ url, x.configuration.properties.get? "logout_url" = some url ∧ Text.blank url = false) ∨
          w.exchange.redirects = true) := by
  rw [exchange_authenticate hl]
  refine ⟨by rw [authenticate_logout hl], fun hx => ?_, fun v hx => ?_, fun s ha => ?_⟩
  · rw [hx]
    rfl
  · rw [hx]
    let c := v.cookie w.exchange.request "" 0
    exact ⟨c, v.deletes_cookie _, Exchange.filter_key_queue _ c, Exchange.filter_key_ne_queue _ c⟩
  · -- the vault has no say in redirections
    have hr : (x.vault.clear w.exchange).redirects = w.exchange.redirects := by
      cases x.vault <;> rfl
    rw [Exchange.redirecting, hr, Bool.or_eq_true, or_comm, ha]
    exact or_congr_left isSome_logoutUrl

/-! ### An example -/

/-- A bridge that has an external logout, and takes the uid and the user name from different headers. -/
def lodge : Configuration := .ofSettings {
  properties := .ofList [
    ("authentication.trusted.id_field", "name"),
    ("authentication.trusted.logout_url", "https://gate/out")]
  logoutPage := some "/bye" }

/-- Its cookies hold the users as they are. -/
def turnstile : CookieVault :=
  .make { encrypt := id, decrypt? := fun token _ => some token } "" "/" [] (-1)

def porter : Authenticator where
  configuration := lodge
  assertion := Assertion.Source.headers.assertion lodge.properties
  vault := .cookie turnstile

/-- Somebody under two names wants to leave. -/
def farewell : Request where
  path := "/bye"
  headers := .ofList [("remote_user", "alice"), ("name", "bob")]

/-- Something else has queued cookies before, one of them for the vault. -/
def leaving : World where
  directory := .empty
  exchange := {
    request := farewell
    cookies := [{ key := turnstile.name, value := "carol" }, { key := "language", value := "en" }] }

theorem porter_lets_out : porter.isLogout "/bye" = .ok true := by cbv

theorem lodge_secret : lodge.properties.get? "secret_field" = none := by cbv

theorem farewell_asserted :
    porter.assertedUser (porter.assertion farewell) = .error (.differentName "alice" "bob") := by
  have hup : lodge.properties.getD Assertion.Source.uidProperty Assertion.Source.defaultField =
      "remote_user" := by cbv
  have hnp : lodge.properties.getD Assertion.Source.nameProperty Assertion.Source.defaultField =
      "name" := by cbv
  have hu : Assertion.Source.headers.field lodge.properties farewell "remote_user" =
      .ok (some "alice") :=
    Assertion.Source.field_of_no_charset (by decide) (by cbv) (by cbv)
  have hn : Assertion.Source.headers.field lodge.properties farewell "name" = .ok (some "bob") :=
    Assertion.Source.field_of_no_charset (by decide) (by cbv) (by cbv)
  have hui : (porter.assertion farewell).uid = .ok (some "alice") := by
    change Assertion.Source.headers.uid lodge.properties farewell = _
    rw [Assertion.Source.uid_of_no_secret lodge_secret, hup, hu]
  have hni : (porter.assertion farewell).name = .ok (some "bob") := by
    change Assertion.Source.headers.field lodge.properties farewell
      (lodge.properties.getD Assertion.Source.nameProperty Assertion.Source.defaultField) = _
    rw [hnp, hn]
  rw [assertedUser, hui, hni]
  rfl

/-- On the way out, who is not remembered is asked for a name. -/
theorem porter_asks (hp : w.exchange.request.path = "/bye")
    (hc : w.exchange.request.cookies = .empty) :
    (porter.authenticate w).1 = (porter.identify (porter.assertion w.exchange.request) none w).1 := by
  have hr : porter.vault.retrieve w.exchange = none := by
    simp only [porter, Vault.retrieve, CookieVault.retrieve, hc, Table.find?_empty]
  rw [authenticate_logout (by rw [hp, porter_lets_out]), settle, hr]

theorem porter_objects (hp : w.exchange.request.path = "/bye")
    (hh : w.exchange.request.headers = farewell.headers)
    (hc : w.exchange.request.cookies = .empty) :
    (porter.authenticate w).1 = .error (.differentName "alice" "bob") := by
  have ha : porter.assertion w.exchange.request = porter.assertion farewell :=
    Assertion.Source.assertion_congr fun name => by
      simp only [Assertion.Source.raw, Request.header?, hh]
  rw [porter_asks hp hc, ha]
  simp only [identify, farewell_asserted]

/-- A request without headers asserts nobody where the headers are asked and no secret is. -/
theorem assertedUser_of_no_headers {p : Properties} {r : Request}
    (ha : x.assertion = Assertion.Source.headers.assertion p) (hs : p.get? "secret_field" = none)
    (hh : r.headers = .empty) : x.assertedUser (x.assertion r) = .ok none := by
  have hf (field : String) : Assertion.Source.headers.field p r field = .ok none := by
    simp only [Assertion.Source.field, Assertion.Source.raw, Request.header?, hh, Table.find?_empty,
      ite_self]
  have hu : (x.assertion r).uid = .ok none := by
    rw [ha]
    change Assertion.Source.headers.uid p r = _
    rw [Assertion.Source.uid_of_no_secret hs, hf]
  rw [assertedUser, hu]
  rfl

theorem porter_passes (hp : w.exchange.request.path = "/bye")
    (hh : w.exchange.request.headers = .empty) (hc : w.exchange.request.cookies = .empty) :
    (porter.authenticate w).1 = .ok none := by
  have ha : porter.assertedUser (porter.assertion w.exchange.request) = .ok none :=
    assertedUser_of_no_headers rfl lodge_secret hh
  rw [porter_asks hp hc]
  simp only [identify, ha, withoutUser]

/-- The logout meets a fault, and yet it leaves one cookie of the vault, which deletes the remembered
user; the other cookie is as it was, and redirections lead by way of the external logout. -/
theorem farewell_forgotten :
    porter.isLogout leaving.exchange.request.path = .ok true ∧
    (porter.authenticate leaving).1 = .error (.differentName "alice" "bob") ∧
    (∃ c : Cookie, c.Deletes turnstile.name ∧
      (porter.authenticate leaving).2.exchange.cookies.filter (·.key = turnstile.name) = [c] ∧
      (porter.authenticate leaving).2.exchange.cookies.filter (·.key ≠ turnstile.name) =
        [{ key := "language", value := "en" }]) ∧
    (porter.authenticate leaving).2.exchange.redirects = true := by
  have hl : porter.isLogout leaving.exchange.request.path = .ok true := porter_lets_out
  obtain ⟨-, -, hcookie, hredirects⟩ := logout_forgets hl
  obtain ⟨c, hc, hone, hothers⟩ := hcookie turnstile rfl
  have hkept : leaving.exchange.cookies.filter (·.key ≠ turnstile.name) =
      [{ key := "language", value := "en" }] := by decide
  exact ⟨hl, porter_objects rfl rfl rfl, ⟨c, hc, hone, hothers.trans hkept⟩,
    (hredirects .headers rfl).2 (.inl ⟨"https://gate/out", by cbv, by decide⟩)⟩

end Authenticator

end IdentityBridge
