import Mathlib
import IdentityBridge.Proofs.Enrolment
import IdentityBridge.Proofs.Session.Run

/-! Steady sessions. An authentication that returns a user leaves a session in which requests of the same
kind have nothing left to do: whichever way the user was found, the next one finds the same user without
touching the directory, the session or any listener, and so do all that follow. -/

namespace IdentityBridge

/-- Requests that differ at most in what no assertion is read from. -/
structure Request.SameFields (r r' : Request) : Prop where
  headers : r'.headers = r.headers
  attributes : r'.attributes = r.attributes

theorem Assertion.Source.assertion_of_sameFields {s : Source} {p : Properties} {r r' : Request}
    (h : r.SameFields r') : s.assertion p r' = s.assertion p r := by
  apply assertion_congr
  intro name
  cases s with
  | headers => simp only [raw, Request.header?, h.headers]
  | attributes => simp only [raw, Request.attributeText, h.attributes]

namespace Authenticator

variable {x : Authenticator} {a : Assertion} {w : World} {user : Reference}

/-- Assertions are read from the headers and attributes of requests, as both sources do. -/
def ReadsFields (x : Authenticator) : Prop :=
  ∀ r r' : Request, r.SameFields r' → x.assertion r' = x.assertion r

theorem readsFields_of_source {s : Assertion.Source} {p : Properties}
    (h : x.assertion = s.assertion p) : x.ReadsFields := by
  intro r r' hr
  rw [h, Assertion.Source.assertion_of_sameFields hr]

/-! ### Steady users -/

/-- By an assertion, whoever is remembered is answered with the user, and nothing else is done. -/
def Steady (x : Authenticator) (a : Assertion) (remembered : Option String) (user : Reference) : Prop :=
  x.move a remembered = .answer (.ok (some user))

/-- Who is named and remembered is steady, with and without trust in what is remembered. -/
theorem steady_of_names (h : x.Names a user) : x.Steady a (some user.serialize) user := by
  simp only [Steady, move, assertedUser_eq_some.2 h, resolve_serialize_of_names h, if_true, ite_self]

/-- Whoever is enrolled is steady from then on. -/
theorem enrol_steady (hx : x.vault = .session) (hs : w.exchange.session.isSome)
    (hw : w.principal = none) {named : Reference} (hn : x.Names a named)
    (h : (x.enrol a named w).1 = .ok (some user)) :
    x.Steady a (x.enrol a named w).2.principal user := by
  have ht := enrol_turn hx hs hw none hn
  rw [h] at ht
  generalize (x.enrol a named w).2.principal = after at ht ⊢
  cases ht with
  | named _ _ names => exact steady_of_names names

/-- Whichever way a user has been found, the user is steady afterwards. -/
theorem settle_steady (hx : x.vault = .session) (hs : w.exchange.session.isSome)
    (h : (x.settle a w).1 = .ok (some user)) : x.Steady a (x.settle a w).2.principal user := by
  have hm := callsFor_move x a w.principal
  rw [settle_eq, retrieve_eq_principal hx] at h ⊢
  generalize hp : w.principal = remembered at hm h ⊢
  cases hmove : x.move a remembered with
  | answer result =>
    -- an answer leaves everything as it is, so that the same answer is called for again
    rw [hmove] at h
    simp only [Move.perform] at h
    simp only [Move.perform, hp, Steady, hmove, h]
  | forget =>
    rw [hmove] at h
    cases h
  | enrol named =>
    rw [hmove] at hm h
    cases hm with
    | enrol _ names => exact enrol_steady hx hs hp names h
  | replace named =>
    rw [hmove] at hm h
    cases hm with
    | replace _ _ names =>
      exact enrol_steady hx (by rwa [session_forget hx]) (principal_forget hx) names h

theorem settle_of_steady (hx : x.vault = .session) (h : x.Steady a w.principal user) :
    x.settle a w = (.ok (some user), w) := by
  rw [settle_eq, retrieve_eq_principal hx, h]
  rfl

/-! ### Requests -/

variable {s s' : Standing} {r : Request}

/-- A request that is answered with a user, and does not log out, leaves the user steady. -/
theorem serve_steady (hx : x.vault = .session) (hr : x.isLogout r.path = .ok false)
    (h : x.serve s r = (.ok (some user), s')) :
    x.Steady (x.assertion r) s'.session.principal user := by
  have hreq : (s.world r).exchange.request = r := rfl
  have hset (result : (x.settle (x.assertion r) (s.world r)).1 = .ok (some user)) :
      x.Steady (x.assertion r) (x.settle (x.assertion r) (s.world r)).2.principal user :=
    settle_steady hx rfl result
  simp only [serve, authenticate, request_settle, hreq, hr, Prod.mk.injEq] at h
  obtain ⟨hres, rfl⟩ := h
  rw [← World.principal_session] at hset
  exact hset hres

/-- Where the user is steady, a request that does not log out is answered with the user and changes
nothing. -/
theorem serve_of_steady (hx : x.vault = .session) (hr : x.isLogout r.path = .ok false)
    (h : x.Steady (x.assertion r) s.session.principal user) :
    x.serve s r = (.ok (some user), s) := by
  have hset : x.settle (x.assertion r) (s.world r) = (.ok (some user), s.world r) :=
    settle_of_steady hx h
  have hreq : (s.world r).exchange.request = r := rfl
  simp only [serve, authenticate, hreq, hset, hr]
  rfl

theorem not_logsOut (h : x.isLogout r.path = .ok false) : ¬ x.LogsOut r := by
  simp [LogsOut, h]

/-- Where a request is answered the logout pattern is readable, and so each request logs out or not. -/
theorem stays_of_serve {outcome : Option Reference} (h : x.serve s r = (.ok outcome, s'))
    {q : Request} (hq : ¬ x.LogsOut q) : x.isLogout q.path = .ok false := by
  obtain ⟨_, hl⟩ := isLogout_of_authenticate (congrArg Prod.fst h)
  obtain ⟨logout, hq'⟩ := isLogout_ok hl q.path
  cases logout with
  | false => exact hq'
  | true => exact absurd hq' hq

/-! ### Runs -/

/-- Requests that do not log out leave the standing as it is where the user is steady. -/
theorem after_of_steady (hx : x.vault = .session) (h : x.Steady a s.session.principal user)
    {later : List Request} (hl : ∀ q ∈ later, x.isLogout q.path = .ok false ∧ x.assertion q = a) :
    x.after s later = s := by
  induction later with
  | nil => rfl
  | cons q rest ih =>
    obtain ⟨hq, ha⟩ := hl q List.mem_cons_self
    rw [after, List.foldl_cons, serve_of_steady hx hq (ha ▸ h)]
    exact ih fun p hp => hl p (List.mem_cons_of_mem _ hp)

/-- Once a request has been answered with a user, every further request with the same headers and
attributes is: none of them saves a page, tells a listener or changes the session. -/
theorem steady_run (hx : x.vault = .session) (ha : x.ReadsFields) (hr : ¬ x.LogsOut r)
    (h : x.serve s r = (.ok (some user), s')) (later : List Request)
    (hl : ∀ q ∈ later, r.SameFields q ∧ ¬ x.LogsOut q) :
    x.after s' later = s' ∧
      ∀ q, r.SameFields q → ¬ x.LogsOut q →
        x.serve (x.after s' later) q = (.ok (some user), s') := by
  have hs := serve_steady hx (stays_of_serve h hr) h
  have hafter : x.after s' later = s' :=
    after_of_steady hx hs fun q hq => ⟨stays_of_serve h (hl q hq).2, ha r q (hl q hq).1⟩
  refine ⟨hafter, fun q hq hn => ?_⟩
  rw [hafter]
  exact serve_of_steady hx (stays_of_serve h hn) (by rwa [ha r q hq])

/-! ### A run -/

/-- A bridge that asks for the user with every request. -/
def doorman : Authenticator := { greeter with configuration := .ofSettings { logoutPage := some "/bye" } }

/-- A request like `greeting`, for another page. -/
def reading : Request := { greeting with path := "/pages/Board" }

theorem doorman_readsFields : doorman.ReadsFields := by
  intro r r' h
  simp only [doorman, greeter, h.headers]

theorem doorman_enrols : (doorman.serve opening greeting).1 = .ok (some alice) := by cbv

theorem doorman_keeps_greeting : doorman.isLogout greeting.path = .ok false := by cbv

theorem doorman_keeps_reading : doorman.isLogout reading.path = .ok false := by cbv

/-- The first greeting enrols the user, and reading pages from then on changes nothing. -/
theorem doorman_steady : ∃ s', doorman.serve opening greeting = (.ok (some alice), s') ∧
    ¬ doorman.LogsOut greeting ∧ doorman.after s' [reading, greeting] = s' ∧
      doorman.serve s' reading = (.ok (some alice), s') := by
  have hg := not_logsOut doorman_keeps_greeting
  have hr := not_logsOut doorman_keeps_reading
  have same : greeting.SameFields reading := ⟨rfl, rfl⟩
  have hx : doorman.vault = .session := rfl
  have pair (p : Except Fault (Option Reference) × Standing) (hp : p.1 = .ok (some alice)) :
      ∃ s', p = (.ok (some alice), s') := ⟨p.2, Prod.ext hp rfl⟩
  obtain ⟨s', h⟩ := pair _ doorman_enrols
  have later : ∀ q ∈ [reading, greeting], greeting.SameFields q ∧ ¬ doorman.LogsOut q := by
    intro q hq
    rcases List.mem_pair.1 hq with rfl | rfl
    · exact ⟨same, hr⟩
    · exact ⟨⟨rfl, rfl⟩, hg⟩
  obtain ⟨hafter, hserve⟩ := steady_run hx doorman_readsFields hg h _ later
  refine ⟨s', h, hg, hafter, ?_⟩
  have hlast := hserve reading same hr
  rwa [hafter] at hlast

end Authenticator

end IdentityBridge
