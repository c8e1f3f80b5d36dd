import IdentityBridge.Proofs.Session.Run

/-! Remembering in cookies and in the session. A session is written at once; a cookie is queued, reaches
the client with the response and comes back with its next request. Step by step the client then holds a
token of the very user that the session would remember, so that a run with one vault has the results of
the same run with the other. -/

namespace IdentityBridge

-- The moments at which a client can come; a cipher may make other tokens at each of them.
variable {μ : Type}

/-! ### Clients -/

/-- The request with the cookie of a name as it is in a jar. -/
def Request.presenting (r : Request) (name : String) (jar : CookieJar) : Request :=
  { r with cookies :=
      match jar.find? name with
      | none => Table.erase r.cookies name
      | some value => Table.insert r.cookies name value }

theorem Request.find?_presenting (r : Request) (name : String) (jar : CookieJar) :
    (r.presenting name jar).cookies.find? name = jar.find? name := by
  unfold presenting
  cases h : jar.find? name with
  | none => simp [Table.find?_erase]
  | some value => simp [Table.find?_insert]

namespace Authenticator

/-- The same authenticator with another vault. -/
def keeping (x : Authenticator) (vault : Vault) : Authenticator := { x with vault }

/-- What lasts from one visit of a client to the next, with the cookies of the client. -/
structure Visitor extends Standing where
  jar : CookieJar := .empty

/-- One visit: the client presents its cookie, and takes the cookies of the response. -/
def visit (x : Authenticator) (name : String) (s : Visitor) (r : Request) :
    Except Fault (Option Reference) × Visitor :=
  let (result, w) := x.authenticate (s.toStanding.world (r.presenting name s.jar))
  (result, {
    directory := w.directory
    session := w.exchange.session.getD {}
    heard := w.heard
    jar := w.exchange.cookies.foldl CookieJar.receive s.jar })

/-- But for the cookies, the request is served as if it had come without a client. -/
theorem visit_serve (x : Authenticator) (name : String) (s : Visitor) (r : Request) :
    (x.visit name s r).1 = (x.serve s.toStanding (r.presenting name s.jar)).1 ∧
      (x.visit name s r).2.toStanding = (x.serve s.toStanding (r.presenting name s.jar)).2 :=
  ⟨rfl, rfl⟩

/-- What a visit lets others see. -/
structure Answer where
  result : Except Fault (Option Reference)
  directory : Directory
  heard : List (Nat × Reference)

/-- The answers to visits at some moments, each to the authenticator of its moment. -/
def answers (x : μ → Authenticator) (name : String) (s : Visitor) :
    List (μ × Request) → List Answer
  | [] => []
  | (now, r) :: rest =>
    let (result, s) := (x now).visit name s r
    ⟨result, s.directory, s.heard⟩ :: answers x name s rest

end Authenticator

/-! ### Tokens -/

/-- Ciphers of several moments that open each other's tokens, none of which is empty or too old. -/
structure Cipher.Lasting (cipher : μ → Cipher) (ttl : Option Int) : Prop where
  opens (made now : μ) (text : String) :
    (cipher now).decrypt? ((cipher made).encrypt text) ttl = some text
  ne_empty (made : μ) (text : String) : (cipher made).encrypt text ≠ ""

namespace CookieVault

/-- The same vault with another cipher. -/
def under (v : CookieVault) (cipher : Cipher) : CookieVault := { v with cipher }

variable {v : CookieVault} {cipher : μ → Cipher} {jar : CookieJar}
  {principal : Option String} {e : Exchange}

/-- A client holds a token of a user, or no cookie of the vault if there is no user. -/
def Holds (v : CookieVault) (cipher : μ → Cipher) (jar : CookieJar) : Option String → Prop
  | none => jar.find? v.name = none
  | some principal => ∃ made, jar.find? v.name = some ((cipher made).encrypt principal)

/-- The vault finds the user in what the client presents. -/
theorem Holds.retrieve (h : v.Holds cipher jar principal) (hc : Cipher.Lasting cipher v.tokenTtl)
    (now : μ) (r : Request) :
    (v.under (cipher now)).retrieve (r.presenting v.name jar) = principal := by
  have hf : (r.presenting v.name jar).cookies.find? (v.under (cipher now)).name =
      jar.find? v.name := r.find?_presenting v.name jar
  unfold CookieVault.retrieve
  rw [hf]
  cases principal with
  | none =>
    have hn : jar.find? v.name = none := h
    rw [hn]
  | some principal =>
    obtain ⟨made, hm⟩ := h
    rw [hm]
    exact (if_neg (hc.ne_empty made principal)).trans (hc.opens made now principal)

/-- What a client holds under the key of the cookie queued last is up to that cookie alone. -/
theorem find?_queue (jar : CookieJar) (e : Exchange) (cookie : Cookie) :
    Table.find? ((e.queue cookie).cookies.foldl CookieJar.receive jar) cookie.key =
      if cookie.maxAge = some 0 then none else some cookie.value := by
  rw [Exchange.queue, List.foldl_append, List.foldl_cons, List.foldl_nil, CookieJar.receive]
  split
  · rw [Table.find?_erase, if_pos rfl]
  · rw [Table.find?_insert, if_pos rfl]

theorem holds_store (ht : v.ttl ≠ 0) (now : μ) (jar : CookieJar) (e : Exchange)
    (principal : String) :
    v.Holds cipher (((v.under (cipher now)).store e principal).cookies.foldl CookieJar.receive jar)
      (some principal) := by
  have hage : (if 0 ≤ v.ttl then some v.ttl else none) ≠ some 0 := by
    split
    · simpa using ht
    · simp
  have hq := find?_queue jar e
    ((v.under (cipher now)).cookie e.request ((cipher now).encrypt principal) v.ttl)
  exact ⟨now, hq.trans (if_neg hage)⟩

theorem holds_clear (now : μ) (jar : CookieJar) (e : Exchange) :
    v.Holds cipher (((v.under (cipher now)).clear e).cookies.foldl CookieJar.receive jar) none :=
  find?_queue jar e ((v.under (cipher now)).cookie e.request "" 0)

end CookieVault

namespace Authenticator

open CookieVault

variable {x : Authenticator} {a : Assertion} {v : CookieVault} {cipher : μ → Cipher}
  {now : μ} {jar : CookieJar} {w w' : World}

/-! ### One authentication -/

/-- An authentication that remembers in cookies has come as far as one that remembers in the session:
all else is the same, and with the cookies queued so far the client holds a token of the user that the
session remembers. -/
structure Agree (v : CookieVault) (cipher : μ → Cipher) (jar : CookieJar) (w w' : World) :
    Prop where
  directory : w.directory = w'.directory
  heard : w.heard = w'.heard
  session : w'.exchange.session.isSome
  held : v.Holds cipher (w.exchange.cookies.foldl CookieJar.receive jar) w'.principal

/-- The two have come to the same result. -/
def Alike (v : CookieVault) (cipher : μ → Cipher) (jar : CookieJar)
    (o o' : Except Fault (Option Reference) × World) : Prop :=
  o.1 = o'.1 ∧ Agree v cipher jar o.2 o'.2

/-- The authenticator with cookies at a moment. -/
abbrev withCookies (x : Authenticator) (v : CookieVault) (cipher : μ → Cipher) (now : μ) :
    Authenticator := x.keeping (.cookie (v.under (cipher now)))

theorem Agree.forget (h : Agree v cipher jar w w') :
    Agree v cipher jar ((x.withCookies v cipher now).forget w) ((x.keeping .session).forget w') where
  directory := h.directory
  heard := h.heard
  session := (session_forget rfl).trans h.session
  held := by
    rw [principal_forget rfl]
    exact holds_clear now jar w.exchange

/-- Storing a user and telling the listeners, with the pages changed alike. -/
theorem Agree.remember (ht : v.ttl ≠ 0) (h : Agree v cipher jar w w') (user : Reference)
    (directory : Directory) :
    Agree v cipher jar
      ((x.withCookies v cipher now).announce user { w with
        directory
        exchange := (x.withCookies v cipher now).vault.store w.exchange user.serialize })
      ((x.keeping .session).announce user { w' with
        directory
        exchange := (x.keeping .session).vault.store w'.exchange user.serialize }) where
  directory := rfl
  heard := congrArg (· ++ _) h.heard
  session := Option.isSome_map.trans h.session
  held := by
    obtain ⟨session, hs⟩ := Option.isSome_iff_exists.1 h.session
    have hp : World.principal ((x.keeping .session).announce user { w' with
        directory
        exchange := (x.keeping .session).vault.store w'.exchange user.serialize }) =
          some user.serialize := by
      simp [World.principal, announce, keeping, Vault.store, hs]
    rw [hp]
    exact holds_store ht now jar w.exchange user.serialize

theorem enrol_alike (ht : v.ttl ≠ 0) (h : Agree v cipher jar w w') (user : Reference) :
    Alike v cipher jar ((x.withCookies v cipher now).enrol a user w)
      ((x.keeping .session).enrol a user w') := by
  have hsync : (x.withCookies v cipher now).synchronizeUser a user w.directory =
      (x.keeping .session).synchronizeUser a user w'.directory := by
    rw [h.directory]
    rfl
  unfold enrol
  rw [hsync]
  rcases (x.keeping .session).synchronizeUser a user w'.directory with ⟨_ | _ | _, directory⟩
  · exact ⟨rfl, rfl, h.heard, h.session, h.held⟩
  · exact ⟨rfl, rfl, h.heard, h.session, h.held⟩
  · exact ⟨rfl, h.remember ht user directory⟩

theorem settle_alike (ht : v.ttl ≠ 0) (h : Agree v cipher jar w w')
    (hr : (x.withCookies v cipher now).vault.retrieve w.exchange = w'.principal) :
    Alike v cipher jar ((x.withCookies v cipher now).settle a w)
      ((x.keeping .session).settle a w') := by
  have hr' : (x.keeping .session).vault.retrieve w'.exchange = w'.principal :=
    retrieve_eq_principal rfl
  have hm : (x.withCookies v cipher now).move a w'.principal =
      (x.keeping .session).move a w'.principal := rfl
  rw [settle_eq, settle_eq, hr, hr', hm]
  cases (x.keeping .session).move a w'.principal with
  | answer result => exact ⟨rfl, h⟩
  | forget => exact ⟨rfl, h.forget⟩
  | enrol user => exact enrol_alike ht h user
  | replace user => exact enrol_alike ht h.forget user

theorem logOut_alike (h : Agree v cipher jar w w') :
    Agree v cipher jar ((x.withCookies v cipher now).logOut a w) ((x.keeping .session).logOut a w') := by
  have hr : Agree v cipher jar
      { w with exchange := { w.exchange with
          redirects := w.exchange.redirects || (a.logoutUrl none).isSome } }
      { w' with exchange := { w'.exchange with
          redirects := w'.exchange.redirects || (a.logoutUrl none).isSome } } :=
    ⟨h.directory, h.heard, h.session, h.held⟩
  exact hr.forget

theorem authenticate_alike (ht : v.ttl ≠ 0) (h : Agree v cipher jar w w')
    (hr : (x.withCookies v cipher now).vault.retrieve w.exchange = w'.principal)
    (ha : x.assertion w.exchange.request = x.assertion w'.exchange.request)
    (hp : w.exchange.request.path = w'.exchange.request.path) :
    Alike v cipher jar ((x.withCookies v cipher now).authenticate w)
      ((x.keeping .session).authenticate w') := by
  have hs := settle_alike (a := x.assertion w'.exchange.request) ht h hr
  have ha' : (x.withCookies v cipher now).assertion w.exchange.request =
      (x.keeping .session).assertion w'.exchange.request := ha
  have hl : (x.withCookies v cipher now).isLogout w.exchange.request.path =
      (x.keeping .session).isLogout w'.exchange.request.path := by
    rw [hp]
    rfl
  simp only [authenticate, request_settle, ha', hl]
  cases (x.keeping .session).isLogout w'.exchange.request.path with
  | error fault => exact ⟨rfl, hs.2⟩
  | ok logout =>
    cases logout with
    | false => exact hs
    | true => exact ⟨hs.1, logOut_alike hs.2⟩

/-! ### Visits -/

/-- A client of cookies and a client of sessions have come equally far. -/
structure Visitor.Agree (v : CookieVault) (cipher : μ → Cipher) (s s' : Visitor) : Prop where
  directory : s.directory = s'.directory
  heard : s.heard = s'.heard
  held : v.Holds cipher s.jar s'.session.principal

theorem visit_alike {source : Assertion.Source}
    (hx : x.assertion = source.assertion x.configuration.properties) (ht : v.ttl ≠ 0)
    (hc : Cipher.Lasting cipher v.tokenTtl) {s s' : Visitor} (h : s.Agree v cipher s')
    (now : μ) (r : Request) :
    ((x.withCookies v cipher now).visit v.name s r).1 =
        ((x.keeping .session).visit v.name s' r).1 ∧
      ((x.withCookies v cipher now).visit v.name s r).2.Agree v cipher
        ((x.keeping .session).visit v.name s' r).2 := by
  have ha : x.assertion (r.presenting v.name s.jar) = x.assertion (r.presenting v.name s'.jar) := by
    rw [hx]
    refine Assertion.Source.assertion_congr fun name => ?_
    cases source <;> rfl
  have hrun : Alike v cipher s.jar
      ((x.withCookies v cipher now).authenticate (s.toStanding.world (r.presenting v.name s.jar)))
      ((x.keeping .session).authenticate (s'.toStanding.world (r.presenting v.name s'.jar))) :=
    authenticate_alike ht ⟨h.directory, h.heard, rfl, h.held⟩ (h.held.retrieve hc now r) ha rfl
  obtain ⟨hresult, hd, hh, -, hheld⟩ := hrun
  refine ⟨hresult, hd, hh, ?_⟩
  rw [← World.principal_session] at hheld
  exact hheld

theorem answers_alike {source : Assertion.Source}
    (hx : x.assertion = source.assertion x.configuration.properties) (ht : v.ttl ≠ 0)
    (hc : Cipher.Lasting cipher v.tokenTtl) {s s' : Visitor} (h : s.Agree v cipher s')
    (visits : List (μ × Request)) :
    answers (x.withCookies v cipher) v.name s visits =
      answers (fun _ => x.keeping .session) v.name s' visits := by
  induction visits generalizing s s' with
  | nil => rfl
  | cons call rest ih =>
    obtain ⟨now, r⟩ := call
    obtain ⟨hresult, hs⟩ := visit_alike hx ht hc h now r
    simp only [answers, hresult, hs.directory, hs.heard, ih hs]

/-- From a client without a cookie of the vault, and a session that remembers nobody, any visits have
the same answers whether users are remembered in cookies or in the session. -/
theorem cookies_as_session {source : Assertion.Source}
    (hx : x.assertion = source.assertion x.configuration.properties) (ht : v.ttl ≠ 0)
    (hc : Cipher.Lasting cipher v.tokenTtl) {start : Visitor}
    (hp : start.session.principal = none) (hj : start.jar.find? v.name = none)
    (visits : List (μ × Request)) :
    answers (fun now => x.keeping (.cookie (v.under (cipher now)))) v.name start visits =
      answers (fun _ => x.keeping .session) v.name start visits := by
  refine answers_alike hx ht hc ⟨rfl, rfl, ?_⟩ visits
  rw [hp]
  exact hj

/-! ### An example -/

/-- A bridge that takes a remembered user on trust. -/
def lounge : Configuration := .ofSettings {
  properties := .ofList [("authentication.trusted.isPersistenceStoreTrusted", "true")]
  logoutPage := some "/bye" }

def concierge : Authenticator where
  configuration := lounge
  assertion := Assertion.Source.headers.assertion lounge.properties
  vault := .session

/-- Texts behind a mark. -/
def marked : Cipher where
  encrypt text := "#" ++ text
  decrypt? token _ := some (String.ofList (token.toList.drop 1))

theorem marked_lasting (ttl : Option Int) : Cipher.Lasting (fun _ : ℕ => marked) ttl where
  opens made now text := by simp [marked, String.toList_append]
  ne_empty made text := by simp [marked]

def cloakroom : CookieVault := .make marked "" "/" [] 3600

def newcomer : Visitor := { toStanding := opening }

/-- A visit whose user is named in a header. -/
def checkIn : Request := { headers := .ofList [("remote_user", "alice")] }

theorem concierge_reads {r : Request} (hr : r.headers = checkIn.headers) :
    concierge.assertion r = {
      uid := .ok (some "alice")
      name := .ok (some "alice")
      property := Assertion.Source.headers.field lounge.properties checkIn
      roles := .ok (some [])
      logoutUrl := Assertion.Source.logoutUrl lounge.properties } := by
  have hr' : concierge.assertion r = Assertion.Source.headers.assertion lounge.properties checkIn :=
    Assertion.Source.assertion_congr fun name => by
      simp only [Assertion.Source.raw, Request.header?, hr]
  rw [hr']
  exact Assertion.Source.assertion_of_plain (by cbv) (by cbv) (by cbv) (by cbv) (by cbv) (by cbv) (by cbv)

theorem concierge_greets {r : Request} (hr : r.headers = checkIn.headers) (hp : r.path = "/") :
    (concierge.serve opening r).1 = .ok (some alice) ∧
      (concierge.serve opening r).2.session.principal = some alice.serialize := by
  have hl : concierge.isLogout "/" = .ok false := by cbv
  have hw : (opening.world r).exchange.request = r := rfl
  simp only [serve, authenticate, request_settle, hw, hp, hl, concierge_reads hr]
  exact ⟨by cbv, by cbv⟩

theorem concierge_recalls {r : Request} (hp : r.path = "/") {s : Standing}
    (hs : s.session.principal = some alice.serialize) :
    (concierge.serve s r).1 = .ok (some alice) := by
  have ht : concierge.configuration.trustsVault = true := by cbv
  have hl : concierge.isLogout "/" = .ok false := by cbv
  have hr : concierge.configuration.resolve alice.serialize = alice :=
    Reference.resolve_serialize (.inl (by decide)) _
  rw [serve_of_trusted rfl ht (by rw [hp, hl]) hs, hr]

/-- A visit that names nobody is answered with the user of the visit before, whom the token tells. -/
theorem cloakroom_recalls :
    concierge.assertion = Assertion.Source.headers.assertion concierge.configuration.properties ∧
      cloakroom.ttl ≠ 0 ∧ Cipher.Lasting (fun _ : ℕ => marked) cloakroom.tokenTtl ∧
      newcomer.session.principal = none ∧ newcomer.jar.find? cloakroom.name = none ∧
      (answers (fun _ : ℕ => concierge.keeping (.cookie (cloakroom.under marked))) cloakroom.name
        newcomer [(0, checkIn), (1, {})]).map (·.result) =
          [.ok (some alice), .ok (some alice)] := by
  have hx : concierge.assertion =
      Assertion.Source.headers.assertion concierge.configuration.properties := rfl
  have ht : cloakroom.ttl ≠ 0 := by decide
  have hc := marked_lasting cloakroom.tokenTtl
  have hp : newcomer.session.principal = none := rfl
  have hj : newcomer.jar.find? cloakroom.name = none := rfl
  have hs : concierge.keeping .session = concierge := rfl
  have ho : newcomer.toStanding = opening := rfl
  obtain ⟨hfirst, hremembered⟩ :=
    concierge_greets (r := checkIn.presenting cloakroom.name newcomer.jar) rfl rfl
  have hsecond (jar : CookieJar) :
      (concierge.serve (concierge.serve opening
        (checkIn.presenting cloakroom.name newcomer.jar)).2
          (({} : Request).presenting cloakroom.name jar)).1 = .ok (some alice) :=
    concierge_recalls rfl hremembered
  refine ⟨hx, ht, hc, hp, hj, ?_⟩
  rw [cookies_as_session hx ht hc hp hj, hs]
  simp only [answers, List.map_cons, List.map_nil, visit_serve, ho, hfirst, hsecond]

end Authenticator

end IdentityBridge
