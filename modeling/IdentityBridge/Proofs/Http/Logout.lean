import IdentityBridge.Http.Gateway
import IdentityBridge.Proofs.Session.Logout

/-! Logging out at the gateway. However the authentication of a logout comes out, a cookie that deletes
the remembered user is queued. The client gets it if the application is reached, and only then: the
response to a call whose identity cannot be mapped sets no cookies. -/

namespace IdentityBridge

/-- Asking the fallback does not change the world. -/
theorem Service.check_snd (s : Service) (w : World) :
    (s.check w).2 = (s.authenticator.authenticate w).2 := by
  unfold check
  rcases s.authenticator.authenticate w with ⟨_ | _ | _, w⟩ <;> rfl

/-- The service says the user that is authenticated, and without one what the fallback says. -/
theorem Service.check_fst (s : Service) (w : World) :
    (s.check w).1 = (s.authenticator.authenticate w).1 >>= fun user =>
      match user with
      | some user => .ok (some user.serialize)
      | none => s.askFallback (s.authenticator.authenticate w).2.exchange.request := by
  unfold check
  rcases s.authenticator.authenticate w with ⟨_ | _ | _, w⟩ <;> rfl

namespace Http

/-- The world in which a call is answered. -/
def Call.world (call : Call) (directory : Directory) (heard : List (Nat × Reference)) : World where
  directory
  heard
  exchange := { request := call.request, session := call.session }

namespace Gateway

variable {g : Gateway} {call : Call}

/-! ### Answers -/

/-- What comes of a call that is authenticated, by what the service says of its user and by the world
after the authentication. -/
inductive Answer (g : Gateway) (reply : Reply) (w : World) :
    Except Fault (Option String) → Except Fault Response × World → Prop where
  /-- The application is reached, and the queued cookies are set. -/
  | reached (user : Option String) : Answer g reply w (.ok user) (.ok {
      status := reply.status
      location := g.redirect w.exchange reply
      user := some user
      cookies := w.exchange.cookies }, w)
  /-- The identity cannot be mapped. -/
  | refused (fault : Fault) (report : Report) (h : fault.report? = some report) :
      Answer g reply w (.error fault) (.ok (misconfigured report), w)
  /-- There is no response. -/
  | failed (fault : Fault) (h : fault.report? = none) :
      Answer g reply w (.error fault) (.error fault, w)

theorem handle_answers (he : g.excludes call.address.path = false) (reply : Reply)
    (directory : Directory) (heard : List (Nat × Reference)) :
    Answer g reply (g.service.authenticator.authenticate (call.world directory heard)).2
      (g.service.check (call.world directory heard)).1 (g.handle call reply directory heard) := by
  rw [← Service.check_snd]
  simp only [handle, he, Bool.false_eq_true, if_false, Call.world]
  rcases g.service.check _ with ⟨fault | user, w⟩
  · cases hr : fault.report? with
    | none =>
      simp only [hr]
      exact .failed fault hr
    | some report =>
      simp only [hr]
      exact .refused fault report hr
  · exact .reached user

/-- The world after an answer is the one after the authentication. -/
theorem Answer.snd {reply : Reply} {w : World} {outcome : Except Fault (Option String)}
    {answer : Except Fault Response × World} (h : Answer g reply w outcome answer) :
    answer.2 = w := by
  cases h <;> rfl

/-! ### Logouts -/

variable {v : CookieVault}

/-- Nothing is queued but the cookie that deletes the remembered user. -/
theorem cookies_of_logout (hv : g.service.authenticator.vault = .cookie v)
    (he : g.excludes call.address.path = false)
    (hl : g.service.authenticator.isLogout call.address.path = .ok true) (reply : Reply)
    (directory : Directory) (heard : List (Nat × Reference)) :
    (g.handle call reply directory heard).2.exchange.cookies = [v.cookie call.request "" 0] := by
  rw [(handle_answers he reply directory heard).snd,
    Authenticator.exchange_authenticate (w := call.world directory heard) hl, hv]
  rfl

/-- A call that logs out has a cookie queued that deletes the remembered user. The response carries this
cookie whenever there is a user or public access, and carries none where the identity cannot be mapped. -/
theorem logout_response (hv : g.service.authenticator.vault = .cookie v)
    (he : g.excludes call.address.path = false)
    (hl : g.service.authenticator.isLogout call.address.path = .ok true) (reply : Reply)
    (directory : Directory) (heard : List (Nat × Reference)) :
    ∃ c : Cookie, c.Deletes v.name ∧
      (g.handle call reply directory heard).2.exchange.cookies = [c] ∧
      (∀ user, (g.service.check (call.world directory heard)).1 = .ok user →
        ∃ r, (g.handle call reply directory heard).1 = .ok r ∧ r.user = some user ∧
          r.cookies = [c]) ∧
      ∀ fault report, (g.service.check (call.world directory heard)).1 = .error fault →
        fault.report? = some report → ∃ r, (g.handle call reply directory heard).1 = .ok r ∧
          r.status = 500 ∧ r.cookies = [] := by
  have hc := cookies_of_logout hv he hl reply directory heard
  have ha := handle_answers he reply directory heard
  refine ⟨_, v.deletes_cookie _, hc, fun user hu => ?_, fun fault report hf hr => ?_⟩
  · rw [hu] at ha
    generalize g.handle call reply directory heard = answer at hc ha ⊢
    cases ha with
    | reached => exact ⟨_, rfl, rfl, hc⟩
  · rw [hf] at ha
    generalize g.handle call reply directory heard = answer at ha ⊢
    cases ha with
    | refused => exact ⟨_, rfl, rfl, rfl⟩
    | failed _ hn => simp [hn] at hr

/-! ### An example -/

open Authenticator

def gatehouse : Gateway := .make { authenticator := porter } []

/-- Somebody under two names wants to leave. -/
def goodbye : Call where
  path := "/bye"
  headers := [("remote_user", "alice"), ("name", "bob")]

theorem goodbye_path : goodbye.address.path = "/bye" := by cbv

theorem goodbye_included : gatehouse.excludes goodbye.address.path = false := by cbv

theorem goodbye_headers : goodbye.request.headers = farewell.headers := by
  have hu : Text.lower "remote_user" = "remote_user" := by cbv
  have hn : Text.lower "name" = "name" := by cbv
  simp only [Call.request, goodbye, Request.foldHeaders, List.map_cons, List.map_nil, hu, hn, farewell]

theorem goodbye_cookies : goodbye.request.cookies = .empty := by
  simp only [Call.request, goodbye, CookieHeader.read]
  rfl

theorem goodbye_check :
    (gatehouse.service.check (goodbye.world .empty [])).1 = .error (.differentName "alice" "bob") := by
  have ha := porter_objects (w := goodbye.world .empty []) goodbye_path goodbye_headers goodbye_cookies
  have hs : gatehouse.service.authenticator = porter := rfl
  rw [Service.check_fst, hs, ha, Outcome.error_bind]

/-- The call logs out and is answered, and yet the client keeps its cookie. -/
theorem goodbye_in_vain : gatehouse.excludes goodbye.address.path = false ∧
    gatehouse.service.authenticator.isLogout goodbye.address.path = .ok true ∧
    ∃ r, (gatehouse.handle goodbye {} .empty []).1 = .ok r ∧ r.status = 500 ∧ r.cookies = [] := by
  have hl : gatehouse.service.authenticator.isLogout goodbye.address.path = .ok true := by
    rw [goodbye_path]
    exact porter_lets_out
  have ha := handle_answers goodbye_included {} .empty []
  rw [goodbye_check] at ha
  refine ⟨goodbye_included, hl, ?_⟩
  generalize gatehouse.handle goodbye {} .empty [] = answer at ha ⊢
  cases ha with
  | refused => exact ⟨_, rfl, rfl, rfl⟩
  | failed _ hn => cases hn

/-- Somebody without a name wants to leave. -/
def wayOut : Call := { path := "/bye" }

theorem wayOut_included : gatehouse.excludes wayOut.address.path = false := by cbv

theorem wayOut_path : wayOut.address.path = "/bye" := by cbv

theorem wayOut_check : (gatehouse.service.check (wayOut.world .empty [])).1 = .ok none := by
  have ha := porter_passes (w := wayOut.world .empty []) wayOut_path rfl rfl
  have hs : gatehouse.service.authenticator = porter := rfl
  have hp : gatehouse.service.configuration.fallbackPath? = none := by cbv
  rw [Service.check_fst, hs, ha, Outcome.ok_bind]
  simp only [Service.askFallback, Service.fallback?, hp, Except.map, Option.bind_none, ite_self]

/-- Who has no name to give gets the cookie that deletes the remembered user. -/
theorem wayOut_forgets : gatehouse.service.authenticator.vault = .cookie turnstile ∧
    gatehouse.excludes wayOut.address.path = false ∧
    gatehouse.service.authenticator.isLogout wayOut.address.path = .ok true ∧
    ∃ c : Cookie, ∃ r, c.Deletes turnstile.name ∧ (gatehouse.handle wayOut {} .empty []).1 = .ok r ∧
      r.cookies = [c] := by
  have hl : gatehouse.service.authenticator.isLogout wayOut.address.path = .ok true := by
    rw [wayOut_path]
    exact porter_lets_out
  obtain ⟨c, hc, -, hreached, -⟩ := logout_response rfl wayOut_included hl {} .empty []
  obtain ⟨r, hr, -, hcookies⟩ := hreached none wayOut_check
  exact ⟨rfl, wayOut_included, hl, c, r, hc, hr, hcookies⟩

end Gateway

end Http

end IdentityBridge
