import IdentityBridge.Proofs.Session.Move

/-! What one authentication makes of the user that a session remembers. The outcomes are few: the
remembered user is kept, the asserted one takes the place, nobody is remembered any more, or a fault
ends the authentication. -/

namespace IdentityBridge

/-- The user that a session remembers. -/
def World.principal (w : World) : Option String := w.exchange.session.bind (·.principal)

theorem World.principal_session (w : World) : (w.exchange.session.getD {}).principal = w.principal := by
  simp only [principal]
  cases w.exchange.session <;> rfl

namespace Authenticator

variable {x : Authenticator} {a : Assertion} {w : World}

/-! ### Turns -/

/-- What an authentication may make of the remembered user, given the remembered user before it: its
result, and the remembered user after it. -/
inductive Turn (x : Authenticator) (a : Assertion) :
    Option String → Except Fault (Option Reference) → Option String → Prop where
  /-- The remembered user is taken on trust. -/
  | kept (principal : String)
      (trusted : x.configuration.trustsVault = true ∨ x.configuration.keepsOnMissing = true) :
      Turn x a (some principal) (.ok (some (x.configuration.resolve principal))) (some principal)
  /-- The asserted user is remembered, newly or still. -/
  | named (before : Option String) (user : Reference) (names : x.Names a user) :
      Turn x a before (.ok (some user)) (some user.serialize)
  /-- There is no user. -/
  | nobody (before : Option String) : Turn x a before (.ok none) none
  /-- A fault leaves the remembered user alone or comes after it has been forgotten. -/
  | failed (before after : Option String) (fault : Fault) (h : after = before ∨ after = none) :
      Turn x a before (.error fault) after

/-- A returned user is named by the assertion or remembered and trusted. -/
theorem Turn.returned {before after : Option String} {user : Reference}
    (h : Turn x a before (.ok (some user)) after) :
    x.Names a user ∨
      (x.configuration.trustsVault = true ∨ x.configuration.keepsOnMissing = true) ∧
        ∃ principal, before = some principal ∧ x.configuration.resolve principal = user := by
  cases h with
  | kept principal trusted => exact .inr ⟨trusted, principal, rfl, rfl⟩
  | named _ _ hn => exact .inl hn

/-- If the remembered user before was some written user, the one after is the returned user. -/
theorem Turn.remembered {before after : Option String} {outcome : Option Reference}
    (h : Turn x a before (.ok outcome) after)
    (hb : ∀ principal, before = some principal →
      (x.configuration.resolve principal).serialize = principal) :
    after = outcome.map Reference.serialize := by
  cases h with
  | kept principal =>
    have hp := hb principal rfl
    rw [Option.map_some, hp]
  | named => rfl
  | nobody => rfl

theorem retrieve_eq_principal (hx : x.vault = .session) :
    x.vault.retrieve w.exchange = w.principal := by
  rw [hx]
  rfl

theorem principal_forget (hx : x.vault = .session) : (x.forget w).principal = none := by
  simp only [forget, hx, Vault.clear, World.principal]
  cases w.exchange.session <;> rfl

/-- A session that is forgotten in stays a session. -/
theorem session_forget (hx : x.vault = .session) :
    (x.forget w).exchange.session.isSome = w.exchange.session.isSome := by
  simp [forget, hx, Vault.clear]

theorem enrol_turn (hx : x.vault = .session) (hs : w.exchange.session.isSome)
    (hw : w.principal = none) (before : Option String) {user : Reference} (hu : x.Names a user) :
    Turn x a before (x.enrol a user w).1 (x.enrol a user w).2.principal := by
  obtain ⟨session, hs⟩ := Option.isSome_iff_exists.1 hs
  unfold enrol
  cases x.synchronizeUser a user w.directory with
  | mk result directory =>
    cases result with
    | error fault => exact .failed _ _ _ (.inr hw)
    | ok done =>
      cases done with
      | false =>
        have hn : World.principal { w with directory } = none := hw
        simp only [hn]
        exact .nobody _
      | true =>
        have hp : World.principal (x.announce user { w with
            directory, exchange := x.vault.store w.exchange user.serialize }) = some user.serialize := by
          simp [World.principal, announce, hx, Vault.store, hs]
        simp only [hp]
        exact .named _ _ hu

theorem settle_turn (hx : x.vault = .session) (hs : w.exchange.session.isSome) :
    Turn x a w.principal (x.settle a w).1 (x.settle a w).2.principal := by
  have hm := callsFor_move x a w.principal
  rw [settle_eq, retrieve_eq_principal hx]
  generalize hp : w.principal = remembered at hm ⊢
  generalize x.move a remembered = move at hm ⊢
  cases hm with
  | keep principal trusted =>
    simp only [Move.perform, hp]
    exact .kept principal trusted
  | confirm user names =>
    simp only [Move.perform, hp]
    exact .named _ user names
  | fail _ fault =>
    simp only [Move.perform, hp]
    exact .failed _ _ fault (.inl rfl)
  | pass =>
    simp only [Move.perform, hp]
    exact .nobody _
  | forget principal =>
    simp only [Move.perform, principal_forget hx]
    exact .nobody _
  | enrol user names => exact enrol_turn hx hs hp _ names
  | replace principal user names =>
    exact enrol_turn hx (by rwa [session_forget hx]) (principal_forget hx) _ names

end Authenticator

end IdentityBridge
