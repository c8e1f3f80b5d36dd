import Mathlib
import IdentityBridge.Proofs.Http.Logout
import IdentityBridge.Proofs.Text.Replacement

/-! Redirections of logouts. A redirection in answer to a logout is sent to the external logout, which gets
the location that the application has replied, with the server before it if it begins with a slash. Every
other response keeps the location of its reply. A location without scheme and without leading slash reaches
the external logout as it is. -/

namespace IdentityBridge

/-! ### Locations -/

namespace Http.Address

/-- A scheme is a letter with letters, digits and three marks after it. -/
def isScheme : List Char → Bool
  | [] => false
  | c :: more => c.isAlpha && more.all fun d => d.isAlphanum || d = '+' || d = '-' || d = '.'

/-- An absolute location begins with a scheme and a colon. -/
def HasScheme (location : String) : Prop :=
  ∃ scheme rest, isScheme scheme = true ∧ location.toList = scheme ++ ':' :: rest

variable {location : String}

theorem HasScheme.append (h : HasScheme location) (more : String) : HasScheme (location ++ more) := by
  obtain ⟨scheme, rest, hs, hl⟩ := h
  exact ⟨scheme, rest ++ more.toList, hs, by simp [hl]⟩

theorem HasScheme.head?_ne_slash (h : HasScheme location) : location.toList.head? ≠ some '/' := by
  obtain ⟨_ | ⟨c, scheme⟩, rest, hs, hl⟩ := h
  · cases hs
  · rw [hl]
    intro hc
    obtain rfl : c = '/' := by simpa using hc
    rw [isScheme, Bool.and_eq_true] at hs
    exact absurd hs.1 (by decide)

theorem hasScheme_serverUrl {a : Address} (h : isScheme a.scheme.toList = true) : HasScheme a.serverUrl :=
  ⟨a.scheme.toList, '/' :: '/' :: a.authority.toList, h, by simp [serverUrl]⟩

end Http.Address

namespace Http.Gateway

theorem absolute_of_slash {location : String} (h : location.toList.head? = some '/') (serverUrl : String) :
    absolute serverUrl location = serverUrl ++ location := by
  unfold absolute
  split
  · rfl
  · next hn =>
    obtain ⟨rest, hrest⟩ := List.head?_eq_some_iff.1 h
    exact absurd hrest (hn rest)

theorem absolute_of_not_slash {location : String} (h : location.toList.head? ≠ some '/')
    (serverUrl : String) : absolute serverUrl location = location := by
  unfold absolute
  split
  · next hl =>
    rw [hl] at h
    exact absurd rfl h
  · rfl

end Http.Gateway

/-! ### Authentications -/

namespace Authenticator

variable {x : Authenticator} {w : World}

theorem redirects_store (v : Vault) (e : Exchange) (principal : String) :
    (v.store e principal).redirects = e.redirects := by cases v <;> rfl

theorem redirects_clear (v : Vault) (e : Exchange) : (v.clear e).redirects = e.redirects := by
  cases v <;> rfl

theorem redirects_settle {a : Assertion} :
    (x.settle a w).2.exchange.redirects = w.exchange.redirects :=
  observe_settle (f := Exchange.redirects) (redirects_store x.vault) (redirects_clear x.vault)

theorem request_authenticate (x : Authenticator) (w : World) :
    (x.authenticate w).2.exchange.request = w.exchange.request := by
  simp only [authenticate, request_settle]
  rcases x.isLogout w.exchange.request.path with fault | _ | _
  · exact request_settle
  · exact request_settle
  · exact (request_clear _ _).trans request_settle

/-- Redirections are led away by a logout that has an external one to go on with, and by nothing else. -/
theorem redirects_authenticate (hw : w.exchange.redirects = false) :
    (x.authenticate w).2.exchange.redirects = true ↔
      x.isLogout w.exchange.request.path = .ok true ∧
        ((x.assertion w.exchange.request).logoutUrl none).isSome = true := by
  simp only [authenticate, request_settle]
  rcases x.isLogout w.exchange.request.path with fault | _ | _
  · simp [redirects_settle, hw]
  · simp [redirects_settle, hw]
  · simp only [logOut, forget, redirects_clear, redirects_settle, hw, Bool.false_or, true_and]

end Authenticator

/-! ### External logouts -/

namespace Text.Percent

theorem toList_loop (bytes : ByteArray) (i : Nat) (found : List UInt8) :
    ByteArray.toList.loop bytes i found = found.reverse ++ bytes.data.toList.drop i := by
  fun_induction ByteArray.toList.loop bytes i found with
  | case1 i found h ih =>
    have hi : i < bytes.data.toList.length := h
    rw [ih, List.reverse_cons, List.append_assoc, List.singleton_append, List.drop_eq_getElem_cons hi]
    congr 2
    simp [ByteArray.get!, getElem!_pos, h]
  | case2 i found h =>
    have hi : bytes.data.toList.length ≤ i := Nat.le_of_not_lt h
    rw [List.drop_of_length_le hi, List.append_nil]

/-- The bytes of a character are those of its encoding in UTF-8. -/
theorem toList_toUTF8_singleton (c : Char) :
    (String.singleton c).toUTF8.toList = String.utf8EncodeChar c := by
  have hbytes : (String.singleton c).toByteArray = (String.utf8EncodeChar c).toByteArray := by
    rw [← String.utf8Encode_toList, String.toList_singleton, List.utf8Encode, List.flatMap_singleton]
  rw [ByteArray.toList, toList_loop, String.toUTF8, hbytes, List.data_toByteArray]
  simp

theorem encodeChar_ne_nil (c : Char) : encodeChar c ≠ [] := by
  unfold encodeChar
  split
  · exact List.cons_ne_nil _ _
  · split
    · exact List.cons_ne_nil _ _
    · rw [toList_toUTF8_singleton]
      obtain ⟨b, more, hb⟩ := List.exists_cons_of_ne_nil String.utf8EncodeChar_ne_nil
      rw [hb]
      simp [encodeByte]

theorem encode_ne_empty {s : String} (h : s ≠ "") : (encode s).toList ≠ [] := by
  have hs : s.toList ≠ [] := by simpa using h
  obtain ⟨c, more, hc⟩ := List.exists_cons_of_ne_nil hs
  rw [encode, String.toList_ofList, hc, List.flatMap_cons]
  simp [encodeChar_ne_nil]

end Text.Percent

namespace Assertion.Source

open Text

variable {p : Properties} {url location : String}

/-- The address of the external logout for a location: each mark in the configured one gives way to the
quoted location. -/
theorem logoutUrl_some (h : p.get? "logout_url" = some url) (hb : Text.blank url = false)
    (hl : location ≠ "") : ∃ sent, logoutUrl p (some location) = some sent ∧ sent ≠ "" ∧
      Replaced locationMark.toList (Percent.encode location).toList url.toList sent.toList := by
  have hmark : locationMark ≠ "" := by decide
  have hreplaced := replaced_replace hmark (Percent.encode location) url
  refine ⟨_, by simp only [logoutUrl, h, hb, Bool.false_eq_true, if_false], fun he => ?_, hreplaced⟩
  have hurl : url.toList ≠ [] := by
    intro hu
    rw [Text.blank, hu] at hb
    cases hb
  refine hreplaced.ne_nil (Percent.encode_ne_empty hl) hurl ?_
  rw [he]
  rfl

end Assertion.Source

namespace Http.Gateway

variable {g : Gateway} {call : Call} {reply : Reply} {url location : String} {s : Assertion.Source}

/-- The response to a call is to go by way of the external logout: the call is a logout, there is an address
to log out at, and the application has replied with a redirection to a location. -/
structure Rerouted (g : Gateway) (call : Call) (reply : Reply) (url location : String) : Prop where
  logout : g.service.authenticator.isLogout call.address.path = .ok true
  address : g.service.configuration.properties.get? "logout_url" = some url
  notBlank : Text.blank url = false
  redirection : 300 ≤ reply.status ∧ reply.status < 400
  located : reply.location = some location
  notEmpty : location ≠ ""

/-- What the external logout gets to know of a location. -/
structure HandedOver (call : Call) (location target : String) : Prop where
  absolute : Address.HasScheme location → target = location
  completed : location.toList.head? = some '/' → target = call.address.serverUrl ++ location
  relative : ¬ Address.HasScheme location → location.toList.head? ≠ some '/' → target = location

theorem handedOver_absolute (call : Call) (location : String) :
    HandedOver call location (absolute call.address.serverUrl location) where
  absolute h := absolute_of_not_slash h.head?_ne_slash _
  completed h := absolute_of_slash h _
  relative _ h := absolute_of_not_slash h _

/-- Where it is told of a location with a scheme or a leading slash, it is told of an absolute one. -/
theorem HandedOver.hasScheme {target : String} (h : HandedOver call location target)
    (hc : Address.isScheme call.address.scheme.toList = true)
    (hl : Address.HasScheme location ∨ location.toList.head? = some '/') : Address.HasScheme target := by
  rcases hl with hl | hl
  · rw [h.absolute hl]
    exact hl
  · rw [h.completed hl]
    exact (Address.hasScheme_serverUrl hc).append _

theorem isRedirection_iff {status : Nat} : isRedirection status = true ↔ 300 ≤ status ∧ status < 400 := by
  simp [isRedirection]

/-- The exchange after the authentication of a call. -/
theorem redirects_world (ha : g.service.authenticator.assertion =
      s.assertion g.service.configuration.properties) (call : Call) (directory : Directory)
    (heard : List (Nat × Reference)) :
    (g.service.authenticator.authenticate (call.world directory heard)).2.exchange.redirects = true ↔
      g.service.authenticator.isLogout call.address.path = .ok true ∧
        ∃ url, g.service.configuration.properties.get? "logout_url" = some url ∧ Text.blank url = false := by
  rw [Authenticator.redirects_authenticate rfl, ha]
  exact and_congr_right' Authenticator.isSome_logoutUrl

theorem redirect_of_rerouted (ha : g.service.authenticator.assertion =
      s.assertion g.service.configuration.properties) (directory : Directory)
    (heard : List (Nat × Reference)) (h : Rerouted g call reply url location) : ∃ sent target,
      g.redirect (g.service.authenticator.authenticate (call.world directory heard)).2.exchange reply =
        some sent ∧
      Text.Replaced Assertion.Source.locationMark.toList (Text.Percent.encode target).toList url.toList
        sent.toList ∧
      HandedOver call location target := by
  have hr := (redirects_world ha call directory heard).2 ⟨h.logout, url, h.address, h.notBlank⟩
  have he := Authenticator.request_authenticate g.service.authenticator (call.world directory heard)
  generalize (g.service.authenticator.authenticate (call.world directory heard)).2.exchange = e at hr he ⊢
  have hserver : e.request.serverUrl = call.address.serverUrl := by rw [he]; rfl
  have hover := handedOver_absolute call location
  have htarget : absolute call.address.serverUrl location ≠ "" := by
    by_cases hs : location.toList.head? = some '/'
    · rw [hover.completed hs]
      simp [h.notEmpty]
    · rw [absolute_of_not_slash hs]
      exact h.notEmpty
  obtain ⟨sent, hsent, hne, hreplaced⟩ :=
    Assertion.Source.logoutUrl_some h.address h.notBlank htarget
  have hredirect : g.service.authenticator.redirect e (absolute call.address.serverUrl location) =
      some sent := by
    rw [Authenticator.redirect, if_pos hr, ha]
    exact hsent
  refine ⟨sent, _, ?_, hreplaced, hover⟩
  simp only [redirect, isRedirection_iff.2 h.redirection, h.located, h.notEmpty, hserver, hredirect, hne,
    Bool.not_true, Bool.false_eq_true, if_false]

variable {e : Exchange}

theorem redirect_of_not_redirects (hr : e.redirects = false) : g.redirect e reply = reply.location := by
  have hnone (location : String) : g.service.authenticator.redirect e location = none := by
    rw [Authenticator.redirect, hr]
    rfl
  unfold redirect
  split
  · rfl
  · cases hl : reply.location with
    | none => rfl
    | some location => simp [hnone]

theorem redirect_of_no_location (h : ¬ (300 ≤ reply.status ∧ reply.status < 400) ∨
    reply.location = none ∨ reply.location = some "") : g.redirect e reply = reply.location := by
  unfold redirect
  rcases h with h | h | h
  · rw [← isRedirection_iff, Bool.not_eq_true] at h
    rw [h]
    rfl
  · rw [h]
    split <;> rfl
  · rw [h]
    split <;> simp

/-- A response that is not to go by way of the external logout keeps the location of its reply. -/
theorem redirect_of_not_rerouted (ha : g.service.authenticator.assertion =
      s.assertion g.service.configuration.properties) (directory : Directory)
    (heard : List (Nat × Reference)) (h : ∀ url location, ¬ Rerouted g call reply url location) :
    g.redirect (g.service.authenticator.authenticate (call.world directory heard)).2.exchange reply =
      reply.location := by
  by_cases hr : (g.service.authenticator.authenticate (call.world directory heard)).2.exchange.redirects = true
  · obtain ⟨hlogout, url, haddress, hblank⟩ := (redirects_world ha call directory heard).1 hr
    refine redirect_of_no_location ?_
    by_cases hstatus : 300 ≤ reply.status ∧ reply.status < 400
    · cases hl : reply.location with
      | none => exact .inr (.inl rfl)
      | some location =>
        refine .inr (.inr (congrArg some (Decidable.by_contra fun hne => ?_)))
        exact h url location ⟨hlogout, haddress, hblank, hstatus, hl, hne⟩
    · exact .inl hstatus
  · exact redirect_of_not_redirects (Bool.eq_false_iff.2 hr)

/-- The response to a call that the application has answered. -/
theorem handle_reached {user : Option String} (he : g.excludes call.address.path = false)
    {directory : Directory} {heard : List (Nat × Reference)}
    (hu : (g.service.check (call.world directory heard)).1 = .ok user) (reply : Reply) :
    ∃ r, (g.handle call reply directory heard).1 = .ok r ∧ r.user = some user ∧ r.location =
      g.redirect (g.service.authenticator.authenticate (call.world directory heard)).2.exchange reply := by
  have hanswer := handle_answers he reply directory heard
  rw [hu] at hanswer
  generalize g.handle call reply directory heard = answer at hanswer ⊢
  cases hanswer with
  | reached => exact ⟨_, rfl, rfl, rfl⟩

/-- A redirection in answer to a logout, with a location, is sent to the configured address of the external
logout, in which each mark gives way to a quoted location: to the one that the application has replied if it
has a scheme, and to that one behind the server if it begins with a slash, so that in both cases it is
absolute; but any other location is quoted as it is. All other responses of the application, be it that their
calls are excluded or no logouts, that there is no such address, or that they are no redirections or have no
location, keep their location. -/
theorem logout_redirections (ha : g.service.authenticator.assertion =
      s.assertion g.service.configuration.properties) (call : Call) (reply : Reply) (directory : Directory)
    (heard : List (Nat × Reference)) :
    (g.excludes call.address.path = true → ∃ r, (g.handle call reply directory heard).1 = .ok r ∧
      r.location = reply.location) ∧
    ∀ user, g.excludes call.address.path = false →
      (g.service.check (call.world directory heard)).1 = .ok user →
      ∃ r, (g.handle call reply directory heard).1 = .ok r ∧ r.user = some user ∧
        (∀ url location, Rerouted g call reply url location → ∃ sent target, r.location = some sent ∧
          Text.Replaced Assertion.Source.locationMark.toList (Text.Percent.encode target).toList url.toList
            sent.toList ∧
          HandedOver call location target ∧
          (Address.isScheme call.address.scheme.toList = true →
            Address.HasScheme location ∨ location.toList.head? = some '/' → Address.HasScheme target)) ∧
        ((∀ url location, ¬ Rerouted g call reply url location) → r.location = reply.location) := by
  refine ⟨fun he => ?_, fun user he hu => ?_⟩
  · exact ⟨{ status := reply.status, location := reply.location }, by simp [handle, he], rfl⟩
  obtain ⟨r, hr, huser, hlocation⟩ := handle_reached he hu reply
  refine ⟨r, hr, huser, fun url location h => ?_, fun h => ?_⟩
  · obtain ⟨sent, target, hsent, hreplaced, hover⟩ := redirect_of_rerouted ha directory heard h
    exact ⟨sent, target, hlocation.trans hsent, hreplaced, hover, fun hc hl => hover.hasScheme hc hl⟩
  · rw [hlocation]
    exact redirect_of_not_rerouted ha directory heard h

/-! ### An example -/

/-- A bridge whose external logout is told where to lead back to. -/
def outbound : Configuration := .ofSettings {
  properties := .ofList [("authentication.trusted.logout_url", "https://gate/out?to=__REDIRECT__")]
  logoutPage := some "/bye" }

def usher : Authenticator where
  configuration := outbound
  assertion := Assertion.Source.headers.assertion outbound.properties
  vault := .session

def exitGate : Gateway := .make { authenticator := usher } []

theorem exitGate_included : exitGate.excludes wayOut.address.path = false := by cbv

theorem usher_lets_out : usher.isLogout "/bye" = .ok true := by cbv

theorem outbound_url :
    outbound.properties.get? "logout_url" = some "https://gate/out?to=__REDIRECT__" := by cbv

theorem wayOut_server : wayOut.address.serverUrl = "http://localhost" := by cbv

/-- Nobody is asserted, and nobody is remembered. -/
theorem exitGate_check : (exitGate.service.check (wayOut.world .empty [])).1 = .ok none := by
  have hl : usher.isLogout (wayOut.world .empty []).exchange.request.path = .ok true := by
    have hp : (wayOut.world .empty []).exchange.request.path = "/bye" := wayOut_path
    rw [hp]
    exact usher_lets_out
  have ha : usher.assertedUser (usher.assertion wayOut.request) = .ok none :=
    Authenticator.assertedUser_of_no_headers rfl (by cbv) rfl
  have hu : (usher.authenticate (wayOut.world .empty [])).1 = .ok none := by
    have hs : (usher.settle (usher.assertion wayOut.request) (wayOut.world .empty [])).1 = .ok none := by
      have hv : usher.vault.retrieve (wayOut.world .empty []).exchange = none := rfl
      simp only [Authenticator.settle, hv, Authenticator.identify, ha, Authenticator.withoutUser]
    rw [Authenticator.authenticate_fst, hl]
    exact hs
  have hx : exitGate.service.authenticator = usher := rfl
  have hp : exitGate.service.configuration.fallbackPath? = none := by cbv
  rw [Service.check_fst, hx, hu, Outcome.ok_bind]
  simp only [Service.askFallback, Service.fallback?, hp, Except.map, Option.bind_none, ite_self]

theorem exitGate_rerouted (location : String) (h : location ≠ "") :
    Rerouted exitGate wayOut { status := 302, location := some location }
      "https://gate/out?to=__REDIRECT__" location where
  logout := by
    rw [wayOut_path]
    exact usher_lets_out
  address := outbound_url
  notBlank := by decide
  redirection := ⟨(by decide : 300 ≤ 302), (by decide : 302 < 400)⟩
  located := rfl
  notEmpty := h

/-- A location without scheme and leading slash does not become absolute, although the server is known. -/
theorem welcome_stays_relative : exitGate.excludes wayOut.address.path = false ∧
    Rerouted exitGate wayOut { status := 302, location := some "welcome" }
      "https://gate/out?to=__REDIRECT__" "welcome" ∧
    ¬ Address.HasScheme "welcome" ∧ wayOut.address.serverUrl = "http://localhost" ∧
    ∃ r, (exitGate.handle wayOut { status := 302, location := some "welcome" } .empty []).1 = .ok r ∧
      r.location = some "https://gate/out?to=welcome" := by
  have hno : ¬ Address.HasScheme "welcome" := by
    rintro ⟨scheme, rest, -, hl⟩
    have hm : ':' ∈ "welcome".toList := by simp [hl]
    exact absurd hm (by decide)
  have hr := exitGate_rerouted "welcome" (by decide)
  refine ⟨exitGate_included, hr, hno, wayOut_server, ?_⟩
  have ha : exitGate.service.authenticator.assertion =
      Assertion.Source.headers.assertion exitGate.service.configuration.properties := rfl
  obtain ⟨r, hhandle, -, hlocation⟩ :=
    handle_reached exitGate_included exitGate_check { status := 302, location := some "welcome" }
  obtain ⟨sent, target, hsent, hreplaced, hover⟩ := redirect_of_rerouted ha .empty [] hr
  rw [hover.relative hno (by decide)] at hreplaced
  have htold := hreplaced.eq_replace (by decide)
  exact ⟨r, hhandle, (hlocation.trans hsent).trans (congrArg some (htold.trans (by cbv)))⟩

/-- A location with a leading slash is told with the server before it. -/
theorem main_led_back : exitGate.service.authenticator.assertion =
      Assertion.Source.headers.assertion exitGate.service.configuration.properties ∧
    exitGate.excludes wayOut.address.path = false ∧
    (exitGate.service.check (wayOut.world .empty [])).1 = .ok none ∧
    Rerouted exitGate wayOut { status := 302, location := some "/main" }
      "https://gate/out?to=__REDIRECT__" "/main" ∧
    ∃ r, (exitGate.handle wayOut { status := 302, location := some "/main" } .empty []).1 = .ok r ∧
      r.location = some "https://gate/out?to=http%3A%2F%2Flocalhost%2Fmain" := by
  have ha : exitGate.service.authenticator.assertion =
      Assertion.Source.headers.assertion exitGate.service.configuration.properties := rfl
  have hr := exitGate_rerouted "/main" (by decide)
  obtain ⟨-, hreached⟩ :=
    logout_redirections ha wayOut { status := 302, location := some "/main" } .empty []
  obtain ⟨r, hhandle, -, hrerouted, -⟩ := hreached none exitGate_included exitGate_check
  obtain ⟨sent, target, hsent, hreplaced, hover, -⟩ := hrerouted _ _ hr
  rw [hover.completed (by decide), wayOut_server] at hreplaced
  have htold := hreplaced.eq_replace (by decide)
  exact ⟨ha, exitGate_included, exitGate_check, hr, r, hhandle,
    hsent.trans (congrArg some (htold.trans (by cbv)))⟩

end Http.Gateway

end IdentityBridge
