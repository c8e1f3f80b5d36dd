import Mathlib
import IdentityBridge.Proofs.Session.Turn

/-! Runs of one session. Requests come one after another, each finds the session as the one before has
left it, and nobody is remembered at first. Whoever is remembered or returned was named by some request,
and no request from then on has logged out; without trust in what is remembered, only the request
itself can name the user it is answered with. -/

namespace IdentityBridge.Authenticator

variable {x : Authenticator}

/-- What lasts from one request of a session to the next. -/
structure Standing where
  directory : Directory
  session : Session := {}
  heard : List (Nat × Reference) := []

/-- What an authentication meets when a request comes. -/
def Standing.world (s : Standing) (r : Request) : World where
  directory := s.directory
  exchange := { request := r, session := some s.session }
  heard := s.heard

/-- Authenticate one request of a session. -/
def serve (x : Authenticator) (s : Standing) (r : Request) :
    Except Fault (Option Reference) × Standing :=
  let (result, w) := x.authenticate (s.world r)
  (result, ⟨w.directory, w.exchange.session.getD {}, w.heard⟩)

/-- The standing after some requests. -/
def after (x : Authenticator) (s : Standing) (requests : List Request) : Standing :=
  requests.foldl (fun s r => (x.serve s r).2) s

def LogsOut (x : Authenticator) (r : Request) : Prop := x.isLogout r.path = .ok true

/-- Some request of a history has named a user, and neither it nor a later one has logged out. -/
def Backed (x : Authenticator) (history : List Request) (user : Reference) : Prop :=
  ∃ before r later, history = before ++ r :: later ∧ x.Names (x.assertion r) user ∧
    ∀ q ∈ r :: later, ¬ x.LogsOut q

theorem Backed.append {history : List Request} {user : Reference} (h : x.Backed history user)
    {r : Request} (hr : ¬ x.LogsOut r) : x.Backed (history ++ [r]) user := by
  obtain ⟨before, q, later, rfl, hn, hl⟩ := h
  refine ⟨before, q, later ++ [r], by simp, hn, fun p hp => ?_⟩
  rw [← List.cons_append, List.mem_append, List.mem_singleton] at hp
  rcases hp with hp | rfl
  · exact hl p hp
  · exact hr

theorem backed_last (history : List Request) {user : Reference} {r : Request}
    (hn : x.Names (x.assertion r) user) (hr : ¬ x.LogsOut r) : x.Backed (history ++ [r]) user :=
  ⟨history, r, [], rfl, hn, by simpa using hr⟩

theorem resolve_serialize_of_backed {history : List Request} {user : Reference}
    (h : x.Backed history user) : x.configuration.resolve user.serialize = user := by
  obtain ⟨_, _, _, -, hn, -⟩ := h
  exact resolve_serialize_of_names hn

/-! ### One request -/

/-- A request takes its turn; then a logout forgets the user, and a broken logout pattern changes the
result alone. -/
theorem serve_turn (hx : x.vault = .session) (s : Standing) (r : Request) :
    ∃ settled principal, Turn x (x.assertion r) s.session.principal settled principal ∧
      ((x.LogsOut r ∧ (x.serve s r).1 = settled ∧ (x.serve s r).2.session.principal = none) ∨
        (¬ x.LogsOut r ∧ (x.serve s r).2.session.principal = principal ∧
          ((x.serve s r).1 = settled ∨ ∃ fault, (x.serve s r).1 = .error fault))) := by
  have ht : Turn x (x.assertion r) _ _ _ := settle_turn (w := s.world r) hx rfl
  refine ⟨_, _, ht, ?_⟩
  have hr : (s.world r).exchange.request = r := rfl
  simp only [serve, authenticate, LogsOut, request_settle, hr]
  cases x.isLogout r.path with
  | error fault => exact .inr ⟨by simp, World.principal_session _, .inr ⟨fault, rfl⟩⟩
  | ok logout =>
    cases logout with
    | false => exact .inr ⟨by simp, World.principal_session _, .inl rfl⟩
    | true => exact .inl ⟨rfl, rfl, (World.principal_session _).trans (principal_forget hx)⟩

/-- A request that meets no fault returns what its turn makes of it, and leaves remembered whom its turn
does unless it logs out. -/
theorem serve_ok (hx : x.vault = .session) {s : Standing} {r : Request} {outcome : Option Reference}
    (h : (x.serve s r).1 = .ok outcome) :
    ∃ principal, Turn x (x.assertion r) s.session.principal (.ok outcome) principal ∧
      (¬ x.LogsOut r → (x.serve s r).2.session.principal = principal) := by
  obtain ⟨settled, p, ht, ⟨hl, hs, -⟩ | ⟨-, hp, hs⟩⟩ := serve_turn hx s r
  · rw [h] at hs
    exact ⟨p, hs ▸ ht, fun hn => absurd hl hn⟩
  · rcases hs with hs | ⟨fault, hs⟩
    · rw [h] at hs
      exact ⟨p, hs ▸ ht, fun _ => hp⟩
    · rw [h] at hs
      cases hs

/-- Where the session is trusted, its user is returned, unless the logout pattern is met. -/
theorem serve_of_trusted (hx : x.vault = .session) (ht : x.configuration.trustsVault = true)
    {r : Request} (hr : x.isLogout r.path = .ok false) {s : Standing} {principal : String}
    (hs : s.session.principal = some principal) :
    (x.serve s r).1 = .ok (some (x.configuration.resolve principal)) := by
  have hv : x.vault.retrieve (s.world r).exchange = some principal :=
    (retrieve_eq_principal hx).trans hs
  have hset (a : Assertion) : x.settle a (s.world r) =
      (.ok (some (x.configuration.resolve principal)), s.world r) := by
    simp only [settle_eq, hv, move, if_pos ht, Move.perform]
  have hp : (s.world r).exchange.request.path = r.path := rfl
  simp only [serve, authenticate, hset, hp, hr]

/-- The remembered user, if there is one, is backed by a history. -/
def Held (x : Authenticator) (history : List Request) (s : Standing) : Prop :=
  ∀ principal, s.session.principal = some principal →
    ∃ user, principal = user.serialize ∧ x.Backed history user

/-- One request keeps the remembered user backed. -/
theorem Held.serve (hx : x.vault = .session) {history : List Request} {s : Standing}
    (h : x.Held history s) (r : Request) : x.Held (history ++ [r]) (x.serve s r).2 := by
  obtain ⟨settled, p, ht, ⟨-, -, hnone⟩ | ⟨hr, hp, -⟩⟩ := serve_turn hx s r
  · intro principal hs
    rw [hnone] at hs
    cases hs
  intro principal hs
  have still {before : Option String} (hb : s.session.principal = before)
      (he : before = some principal) : ∃ user, principal = user.serialize ∧
        x.Backed (history ++ [r]) user := by
    obtain ⟨user, hu, hk⟩ := h principal (hb.trans he)
    exact ⟨user, hu, hk.append hr⟩
  rw [hp] at hs
  generalize hb : s.session.principal = before at ht
  cases ht with
  | kept => exact still hb hs
  | named _ user hn => exact ⟨user, (Option.some.inj hs).symm, backed_last history hn hr⟩
  | nobody => cases hs
  | failed _ _ _ hf =>
    rcases hf with rfl | rfl
    · exact still hb hs
    · cases hs

/-! ### Runs -/

/-- Whatever has come before, a run keeps the remembered user backed. -/
theorem Held.after (hx : x.vault = .session) {history : List Request} {s : Standing}
    (h : x.Held history s) (requests : List Request) :
    x.Held (history ++ requests) (x.after s requests) := by
  induction requests generalizing history s with
  | nil => rwa [List.append_nil]
  | cons r rest ih =>
    rw [List.append_cons]
    exact ih (h.serve hx r)

theorem held_after (hx : x.vault = .session) {start : Standing}
    (h0 : start.session.principal = none) (requests : List Request) :
    x.Held requests (x.after start requests) := by
  have h : x.Held [] start := by
    intro principal h
    rw [h0] at h
    cases h
  exact h.after hx requests

/-- A returned user was named by this request, or by an earlier one with no logout from then until this
request. A remembered user was named by a request with no logout since. Without trust in what is
remembered the returned user was named by this request. Unless it logs out, a request that meets no
fault leaves exactly the user it returns remembered. -/
theorem run_safe (hx : x.vault = .session) {start : Standing}
    (h0 : start.session.principal = none) (earlier : List Request) (r : Request)
    {result : Except Fault (Option Reference)} {s : Standing}
    (h : x.serve (x.after start earlier) r = (result, s)) :
    (∀ user, result = .ok (some user) →
      x.Names (x.assertion r) user ∨ x.Backed earlier user) ∧
    (∀ principal, s.session.principal = some principal →
      ∃ user, principal = user.serialize ∧ x.Backed (earlier ++ [r]) user) ∧
    (x.configuration.trustsVault = false → x.configuration.keepsOnMissing = false →
      ∀ user, result = .ok (some user) → x.Names (x.assertion r) user) ∧
    (∀ outcome, result = .ok outcome → ¬ x.LogsOut r →
      s.session.principal = outcome.map Reference.serialize) := by
  have held := held_after hx h0 earlier
  have turned {outcome : Option Reference} (ho : result = .ok outcome) :
      ∃ p, Turn x (x.assertion r) (x.after start earlier).session.principal (.ok outcome) p ∧
        (¬ x.LogsOut r → s.session.principal = p) := by
    have ht := serve_ok hx ((congrArg Prod.fst h).trans ho)
    rwa [h] at ht
  refine ⟨fun user ho => ?_, ?_, fun htrust hkeep user ho => ?_, fun outcome ho hlog => ?_⟩
  · obtain ⟨p, ht, -⟩ := turned ho
    rcases ht.returned with hn | ⟨-, principal, hp, hu⟩
    · exact .inl hn
    · obtain ⟨user', rfl, hk⟩ := held principal hp
      rw [resolve_serialize_of_backed hk] at hu
      exact .inr (hu ▸ hk)
  · have after := held.serve hx r
    rwa [h] at after
  · obtain ⟨p, ht, -⟩ := turned ho
    rcases ht.returned with hn | ⟨htrusted, -⟩
    · exact hn
    · simp [htrust, hkeep] at htrusted
  · obtain ⟨p, ht, hp⟩ := turned ho
    rw [hp hlog]
    apply ht.remembered
    intro principal hb
    obtain ⟨user, rfl, hk⟩ := held principal hb
    rw [resolve_serialize_of_backed hk]

/-! ### A run -/

/-- A bridge whose requests name their user in a header, and which takes a remembered user on trust. -/
def greeter : Authenticator where
  configuration := .ofSettings {
    properties := .ofList [("authentication.trusted.isPersistenceStoreTrusted", "true")]
    logoutPage := some "/bye" }
  assertion r := {
    uid := .ok (r.headers.find? "user")
    name := .ok (r.headers.find? "user")
    property := fun _ => .ok none
    roles := .ok (some [])
    logoutUrl := fun _ => none }
  vault := .session

def greeting : Request := { headers := .ofList [("user", "Alice")] }

def alice : Reference := .inSpace "xwiki" "XWiki" "alice"

/-- The standing before any request. -/
def opening : Standing := { directory := .empty }

theorem greeter_trusts : greeter.configuration.trustsVault = true := by cbv

theorem greeter_stays : greeter.isLogout "/" = .ok false := by cbv

theorem greeter_remembers :
    (greeter.after opening [greeting]).session.principal = some alice.serialize := by cbv

theorem greeter_recalls {s : Standing} (hs : s.session.principal = some alice.serialize) :
    (greeter.serve s {}).1 = .ok (some alice) := by
  have hr : greeter.configuration.resolve alice.serialize = alice :=
    Reference.resolve_serialize (.inl (by decide)) _
  rw [serve_of_trusted (r := {}) rfl greeter_trusts greeter_stays hs, hr]

/-- A later request without a header is answered with the user of an earlier one. -/
theorem greeter_backed :
    greeter.vault = .session ∧ opening.session.principal = none ∧
      (greeter.serve (greeter.after opening [greeting]) {}).1 = .ok (some alice) ∧
      (greeter.Names (greeter.assertion {}) alice ∨ greeter.Backed [greeting] alice) := by
  have h0 : opening.session.principal = none := rfl
  have hr := greeter_recalls greeter_remembers
  exact ⟨rfl, h0, hr, (run_safe rfl h0 [greeting] {} (Prod.eta _).symm).1 alice hr⟩

end IdentityBridge.Authenticator
