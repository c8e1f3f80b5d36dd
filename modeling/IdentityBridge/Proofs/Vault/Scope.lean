import IdentityBridge.Proofs.Http.Logout

/-! The domains that cookies are set for. A vault scopes its cookies to the first of the configured domains
that the server lies in, and to none if it lies in none. A server lies in a domain by whole labels: it has
the name of the domain, or a name that ends with the domain and the dot in front. So no cookie that the
gateway sets is for a domain that the server is not in. -/

namespace IdentityBridge

variable {cipher : Cipher} {namePrefix path : String} {ttl : Int} {domains : List String}
  {text domain server name : String}

namespace CookieVault

/-! ### Domains -/

def IsDotted (s : String) : Prop := ∃ name, s = "." ++ name

/-- The domain that a configured text stands for, unless it is blank. The blanks around it do not count,
nor whether it has a dot in front. -/
inductive Configures (text : String) : String → Prop where
  | dotted (name : String) (h : Text.trim text = "." ++ name) : Configures text ("." ++ name)
  | bare (hne : Text.trim text ≠ "") (hd : ¬ IsDotted (Text.trim text)) :
      Configures text ("." ++ Text.trim text)

/-- A server lies in a domain, which has a dot in front: it has the name behind the dot, or a name that
ends with the domain. -/
def LiesIn (server domain : String) : Prop := domain = "." ++ server ∨ ∃ host, server = host ++ domain

theorem toList_dot (name : String) : ("." ++ name).toList = '.' :: name.toList := by
  rw [String.toList_append]
  rfl

theorem conformDomain_dotted (name : String) : conformDomain ("." ++ name) = "." ++ name := by
  rw [conformDomain, toList_dot]
  rfl

theorem conformDomain_bare {s : String} (hd : ¬ IsDotted s) (hne : s ≠ "") :
    conformDomain s = "." ++ s := by
  rw [conformDomain]
  split
  · next h => exact absurd (String.toList_eq_nil_iff.1 h) hne
  · next c rest h =>
    refine if_neg ?_
    rintro rfl
    exact hd ⟨String.ofList rest, by rw [← String.toList_inj, toList_dot, String.toList_ofList, h]⟩

theorem conformDomain_eq (s : String) : conformDomain s = s ∨ conformDomain s = "." ++ s := by
  by_cases hne : s = ""
  · subst hne
    exact .inl rfl
  · by_cases hd : IsDotted s
    · obtain ⟨name, rfl⟩ := hd
      exact .inl (conformDomain_dotted name)
    · exact .inr (conformDomain_bare hd hne)

theorem configures_iff :
    Configures text domain ↔ Text.blank text = false ∧ domain = conformDomain (Text.trim text) := by
  rw [← Bool.not_eq_true, ← Text.trim_eq_empty_iff]
  constructor
  · rintro (⟨name, h⟩ | ⟨hne, hd⟩)
    · rw [h, conformDomain_dotted]
      exact ⟨by simp, rfl⟩
    · exact ⟨hne, (conformDomain_bare hd hne).symm⟩
  · rintro ⟨hne, rfl⟩
    by_cases hd : IsDotted (Text.trim text)
    · obtain ⟨name, h⟩ := hd
      rw [h, conformDomain_dotted]
      exact .dotted name h
    · rw [conformDomain_bare hd hne]
      exact .bare hne hd

/-! ### Servers -/

theorem suffix_iff : domain.toList <:+ server.toList ↔ ∃ host, server = host ++ domain := by
  constructor
  · rintro ⟨host, h⟩
    exact ⟨String.ofList host, by rw [← String.toList_inj, String.toList_append, String.toList_ofList, h]⟩
  · rintro ⟨host, rfl⟩
    exact ⟨host.toList, (String.toList_append ..).symm⟩

/-- With a dot put in front, a server ends with the domains that it lies in and with no others. -/
theorem suffix_dot_iff : domain.toList <:+ ("." ++ server).toList ↔ LiesIn server domain := by
  rw [toList_dot, List.suffix_cons_iff, suffix_iff, ← toList_dot, String.toList_inj, LiesIn]

theorem liesIn_of_suffix (h : domain.toList <:+ (conformDomain server).toList) :
    LiesIn server domain := by
  rcases conformDomain_eq server with he | he <;> rw [he] at h
  · exact .inr (suffix_iff.1 h)
  · exact suffix_dot_iff.1 h

/-- A name that shares no more than the tail of a label with a domain does not lie in it. -/
theorem not_liesIn_of_tail {front : String} {c : Char} (hc : c ≠ '.') :
    ¬ LiesIn (front ++ String.singleton c ++ name) ("." ++ name) := by
  rintro (h | ⟨host, h⟩)
  · have hlength := congrArg String.length h
    simp at hlength
  · rw [← String.append_assoc, String.append_left_inj] at h
    have hlast := congrArg (·.toList.getLast?) h
    simp at hlast
    exact hc hlast

/-! ### The scope of a cookie -/

/-- Whether a configured text is a domain that ends the name of a server. -/
def ends (server text : String) : Bool :=
  !Text.blank text && (conformDomain (Text.trim text)).toList.isSuffixOf (conformDomain server).toList

theorem ends_iff : ends server text ↔
    ∃ domain, Configures text domain ∧ domain.toList <:+ (conformDomain server).toList := by
  simp [ends, configures_iff]

theorem domain?_make (server : String) : (make cipher namePrefix path domains ttl).domain? server =
    (domains.find? (ends server)).map fun text => conformDomain (Text.trim text) := by
  have hends : ends server = fun text => decide ((!Text.blank text) = true ∧
      (conformDomain (Text.trim text)).toList.isSuffixOf (conformDomain server).toList = true) :=
    funext fun text => by rw [ends, Bool.decide_and, Bool.decide_eq_true, Bool.decide_eq_true]
  simp only [domain?, make, List.find?_map, List.find?_filter, hends, Function.comp_apply]

theorem domain?_eq_some : (make cipher namePrefix path domains ttl).domain? server = some domain ↔
    ∃ earlier text later, domains = earlier ++ text :: later ∧ Configures text domain ∧
      domain.toList <:+ (conformDomain server).toList ∧ ∀ other ∈ earlier, ends server other = false := by
  rw [domain?_make, Option.map_eq_some_iff]
  simp only [List.find?_eq_some_iff_append, Bool.not_eq_true']
  constructor
  · rintro ⟨text, ⟨hp, earlier, later, rfl, he⟩, rfl⟩
    obtain ⟨domain, hd, hs⟩ := ends_iff.1 hp
    obtain rfl := (configures_iff.1 hd).2
    exact ⟨earlier, text, later, rfl, hd, hs, he⟩
  · rintro ⟨earlier, text, later, rfl, hd, hs, he⟩
    exact ⟨text, ⟨ends_iff.2 ⟨domain, hd, hs⟩, earlier, later, rfl, he⟩, (configures_iff.1 hd).2.symm⟩

theorem domain?_eq_none : (make cipher namePrefix path domains ttl).domain? server = none ↔
    ∀ text ∈ domains, ends server text = false := by
  rw [domain?_make, Option.map_eq_none_iff, List.find?_eq_none]
  simp only [Bool.not_eq_true]

/-- A vault scopes its cookies to a domain that was configured and that the server lies in, or to none. -/
theorem configured_of_domain? (h : (make cipher namePrefix path domains ttl).domain? server = some domain) :
    (∃ text ∈ domains, Configures text domain) ∧ LiesIn server domain := by
  obtain ⟨earlier, text, later, rfl, hd, hs, -⟩ := domain?_eq_some.1 h
  exact ⟨⟨text, List.mem_append_right _ List.mem_cons_self, hd⟩, liesIn_of_suffix hs⟩

section

variable (hne : server ≠ "") (hd : ¬ IsDotted server)

include hne hd

theorem suffix_conform_iff : domain.toList <:+ (conformDomain server).toList ↔ LiesIn server domain := by
  rw [conformDomain_bare hd hne, suffix_dot_iff]

theorem ends_eq_false_iff : ends server text = false ↔
    ∀ domain, Configures text domain → ¬ LiesIn server domain := by
  rw [← Bool.not_eq_true, ends_iff]
  simp only [suffix_conform_iff hne hd, not_exists, not_and]

/-- Of the configured domains, the first that a server lies in is the scope of its cookies, and there is no
scope where it lies in none. A name that shares no more than the tail of a label with a domain is never
in its scope. -/
theorem first_domain_scopes (cipher : Cipher) (namePrefix path : String) (ttl : Int)
    (domains : List String) :
    (∀ domain, (make cipher namePrefix path domains ttl).domain? server = some domain ↔
      ∃ earlier text later, domains = earlier ++ text :: later ∧ Configures text domain ∧
        LiesIn server domain ∧
        ∀ other ∈ earlier, ∀ domain', Configures other domain' → ¬ LiesIn server domain') ∧
    ((make cipher namePrefix path domains ttl).domain? server = none ↔
      ∀ text ∈ domains, ∀ domain, Configures text domain → ¬ LiesIn server domain) ∧
    ∀ (front : String) (c : Char) (name : String), server = front ++ String.singleton c ++ name → c ≠ '.' →
      (make cipher namePrefix path domains ttl).domain? server ≠ some ("." ++ name) := by
  refine ⟨fun domain => ?_, ?_, fun front c name hs hc h => ?_⟩
  · simp only [domain?_eq_some, suffix_conform_iff hne hd, ends_eq_false_iff hne hd]
  · simp only [domain?_eq_none, ends_eq_false_iff hne hd]
  · subst hs
    exact not_liesIn_of_tail hc (configured_of_domain? h).2

end

/-! ### An example -/

/-- Configured domains, one of them blank and one with blanks around it. -/
def estate : List String := ["example.com", " ", " .corp.net "]

def estateVault : CookieVault := .make Authenticator.turnstile.cipher "" "/" estate (-1)

theorem not_isDotted {s : String} (h : s.toList.head? ≠ some '.') : ¬ IsDotted s := by
  rintro ⟨name, rfl⟩
  exact h (by rw [toList_dot, List.head?_cons])

/-- A server of the last domain is scoped to it. One that ends as the first domain does, but inside a label,
is scoped to none. -/
theorem estate_scopes : "a.b.corp.net" ≠ "" ∧ ¬ IsDotted "a.b.corp.net" ∧
    (∃ earlier text later, estate = earlier ++ text :: later ∧ Configures text ".corp.net" ∧
      LiesIn "a.b.corp.net" ".corp.net" ∧
      ∀ other ∈ earlier, ∀ domain', Configures other domain' → ¬ LiesIn "a.b.corp.net" domain') ∧
    estateVault.domain? "badexample.com" ≠ some ".example.com" ∧
    ∀ text ∈ estate, ∀ domain, Configures text domain → ¬ LiesIn "badexample.com" domain := by
  have hcorp : estateVault.domain? "a.b.corp.net" = some ".corp.net" := by cbv
  have hbad : estateVault.domain? "badexample.com" = none := by cbv
  have hbare : ¬ IsDotted "a.b.corp.net" := not_isDotted (by decide)
  have hbare' : ¬ IsDotted "badexample.com" := not_isDotted (by decide)
  obtain ⟨hfirst, -, -⟩ :=
    first_domain_scopes (by decide) hbare Authenticator.turnstile.cipher "" "/" (-1) estate
  obtain ⟨-, hnone, htail⟩ :=
    first_domain_scopes (by decide) hbare' Authenticator.turnstile.cipher "" "/" (-1) estate
  exact ⟨by decide, hbare, (hfirst ".corp.net").1 hcorp, htail "ba" 'd' "example.com" rfl (by decide), hnone.1 hbad⟩

end CookieVault

/-! ### Cookies that are set -/

open CookieVault

/-- If a cookie is set for a domain, then for a configured one that the server lies in. -/
def Cookie.InScope (c : Cookie) (domains : List String) (server : String) : Prop :=
  ∀ domain ∈ c.domain, (∃ text ∈ domains, Configures text domain) ∧ LiesIn server domain

/-- A server is asked, and the cookies are old ones or in scope. -/
def Exchange.Scoped (e : Exchange) (old : List Cookie) (domains : List String) (server : String) : Prop :=
  e.request.serverName = server ∧ ∀ c ∈ e.cookies, c ∈ old ∨ c.InScope domains server

theorem CookieVault.queue_scoped {e : Exchange} {old : List Cookie} (h : e.Scoped old domains server)
    (value : String) (maxAge : Int) :
    (e.queue ((make cipher namePrefix path domains ttl).cookie e.request value maxAge)).Scoped
      old domains server := by
  obtain ⟨rfl, hcookies⟩ := h
  refine ⟨rfl, fun c hc => ?_⟩
  rcases List.mem_append.1 hc with hc | hc
  · exact hcookies c (List.mem_of_mem_filter hc)
  · obtain rfl := List.mem_singleton.1 hc
    exact .inr fun domain hd => configured_of_domain? hd

namespace Authenticator

variable {x : Authenticator} {w : World}

/-- However an authentication comes out, the cookies that it queues are in scope. -/
theorem authenticate_scoped (hv : x.vault = .cookie (make cipher namePrefix path domains ttl)) :
    (x.authenticate w).2.exchange.Scoped w.exchange.cookies domains w.exchange.request.serverName := by
  refine authenticate_keeps
    (Q := fun e => e.Scoped w.exchange.cookies domains w.exchange.request.serverName)
    (fun e principal h => ?_) (fun e h => ?_) (fun _ _ h => h) ⟨rfl, fun c hc => .inl hc⟩
  · rw [hv]
    exact queue_scoped h _ _
  · rw [hv]
    exact queue_scoped h _ _

end Authenticator

namespace Http.Gateway

variable {g : Gateway} {call : Call} {r : Response}

/-- Whatever the gateway answers, the cookies that it sets are in the scope of the server that is called. -/
theorem handle_scoped
    (hv : g.service.authenticator.vault = .cookie (CookieVault.make cipher namePrefix path domains ttl))
    {reply : Reply} {directory : Directory} {heard : List (Nat × Reference)}
    (h : (g.handle call reply directory heard).1 = .ok r) :
    ∀ c ∈ r.cookies, c.InScope domains call.request.serverName := by
  have hscoped := (Authenticator.authenticate_scoped (w := call.world directory heard) hv).2
  cases he : g.excludes call.address.path with
  | true =>
    simp only [handle, he, if_true, Except.ok.injEq] at h
    subst h
    exact List.forall_mem_nil _
  | false =>
    have ha := handle_answers he reply directory heard
    generalize (g.service.check (call.world directory heard)).1 = outcome at ha
    generalize g.handle call reply directory heard = answer at ha h
    cases ha with
    | reached =>
      obtain rfl := Except.ok.inj h
      exact fun c hc => (hscoped c hc).resolve_left List.not_mem_nil
    | refused =>
      obtain rfl := Except.ok.inj h
      exact List.forall_mem_nil _
    | failed => cases h

end Http.Gateway

end IdentityBridge
