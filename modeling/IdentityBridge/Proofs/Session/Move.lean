import IdentityBridge.Authenticator
import IdentityBridge.Proofs.Outcome
import IdentityBridge.Proofs.Reference.RoundTrip

/-! What an authentication does. The remembered user and the assertion alone decide which of four moves
it makes, and each move is one way to change the world. What holds of all authentications is shown move
by move. -/

namespace IdentityBridge.Authenticator

variable {x : Authenticator} {a : Assertion} {w : World}

/-! ### Asserted users -/

theorem filled_eq_some {text : Option String} {s : String} :
    filled text = some s ↔ text = some s ∧ Text.blank s = false := by
  simp [filled, Option.filter_eq_some_iff]

/-- An assertion names a user: the uid is not blank, the user name is the same text, and the user is the
profile of that name. -/
def Names (x : Authenticator) (a : Assertion) (user : Reference) : Prop :=
  ∃ uid, a.uid = .ok (some uid) ∧ Text.blank uid = false ∧ a.name = .ok (some uid) ∧
    user = profileOf x.configuration uid

theorem Names.wiki {user : Reference} (h : x.Names a user) :
    user.wiki = x.configuration.mainWiki := by
  obtain ⟨_, -, -, -, rfl⟩ := h
  rfl

theorem assertedUser_eq_some {user : Reference} :
    x.assertedUser a = .ok (some user) ↔ x.Names a user := by
  constructor
  · intro h
    obtain ⟨uid, hu, h⟩ := Outcome.bind_eq_ok.1 h
    cases hf : filled uid with
    | none => simp [hf] at h
    | some text =>
      obtain ⟨rfl, hb⟩ := filled_eq_some.1 hf
      rw [hf] at h
      obtain ⟨name, hn, h⟩ := Outcome.bind_eq_ok.1 h
      cases hf' : filled name with
      | none => simp [hf'] at h
      | some text' =>
        obtain ⟨rfl, -⟩ := filled_eq_some.1 hf'
        by_cases he : text = text'
        · subst he
          simp only [hf', if_true, Outcome.pure_eq, Except.ok.injEq, Option.some.injEq] at h
          exact ⟨text, hu, hb, hn, h.symm⟩
        · simp [hf', he] at h
  · rintro ⟨uid, hu, hb, hn, rfl⟩
    have hf : filled (some uid) = some uid := filled_eq_some.2 ⟨rfl, hb⟩
    simp [assertedUser, hu, hn, hf]

/-- The profile of a name, written, is read back with the same completion. -/
theorem resolve_serialize_of_names {user : Reference} (h : x.Names a user) :
    x.configuration.resolve user.serialize = user := by
  obtain ⟨uid, -, -, -, rfl⟩ := h
  refine Reference.resolve_serialize ?_ _
  by_cases hw : x.configuration.mainWiki = ""
  · exact .inr hw
  · exact .inl hw

/-! ### Moves -/

/-- The ways to authenticate a request. -/
inductive Move where
  /-- Answer and change nothing. -/
  | answer (result : Except Fault (Option Reference))
  /-- Forget the remembered user and answer that there is none. -/
  | forget
  /-- Enrol a user, where nobody is remembered. -/
  | enrol (user : Reference)
  /-- Forget the remembered user and enrol another one. -/
  | replace (user : Reference)

/-- The move that a remembered user and an assertion call for. -/
def move (x : Authenticator) (a : Assertion) : Option String → Move
  | none =>
    match x.assertedUser a with
    | .error fault => .answer (.error fault)
    | .ok none => .answer (.ok none)
    | .ok (some user) => .enrol user
  | some principal =>
    if x.configuration.trustsVault then .answer (.ok (some (x.configuration.resolve principal)))
    else
      match x.assertedUser a with
      | .error fault => .answer (.error fault)
      | .ok none =>
        if x.configuration.keepsOnMissing then
          .answer (.ok (some (x.configuration.resolve principal)))
        else .forget
      | .ok (some user) =>
        if principal = user.serialize then .answer (.ok (some user)) else .replace user

def Move.perform (x : Authenticator) (a : Assertion) :
    Move → World → Except Fault (Option Reference) × World
  | answer result, w => (result, w)
  | forget, w => (.ok none, x.forget w)
  | enrol user, w => x.enrol a user w
  | replace user, w => x.enrol a user (x.forget w)

/-- An authentication performs its move. -/
theorem settle_eq (x : Authenticator) (a : Assertion) (w : World) :
    x.settle a w = (x.move a (x.vault.retrieve w.exchange)).perform x a w := by
  unfold settle
  cases x.vault.retrieve w.exchange with
  | none =>
    simp only [identify, move]
    rcases x.assertedUser a with fault | _ | user <;> rfl
  | some principal =>
    simp only [identify, move]
    split
    · rfl
    · rcases x.assertedUser a with fault | _ | user
      · rfl
      · simp only [withoutUser]
        split <;> rfl
      · simp only [withUser]
        split <;> rfl

/-- An assertion counts for no more than the user it names. -/
theorem move_congr {a' : Assertion} (h : x.assertedUser a' = x.assertedUser a) :
    x.move a' = x.move a := by
  funext remembered
  cases remembered <;> simp only [move, h]

/-- Which moves there are for a remembered user, and what has led to them. -/
inductive CallsFor (x : Authenticator) (a : Assertion) : Option String → Move → Prop where
  /-- The remembered user is taken on trust. -/
  | keep (principal : String)
      (trusted : x.configuration.trustsVault = true ∨ x.configuration.keepsOnMissing = true) :
      CallsFor x a (some principal) (.answer (.ok (some (x.configuration.resolve principal))))
  | confirm (user : Reference) (names : x.Names a user) :
      CallsFor x a (some user.serialize) (.answer (.ok (some user)))
  | fail (remembered : Option String) (fault : Fault) (h : x.assertedUser a = .error fault) :
      CallsFor x a remembered (.answer (.error fault))
  | pass : CallsFor x a none (.answer (.ok none))
  | forget (principal : String) : CallsFor x a (some principal) .forget
  | enrol (user : Reference) (names : x.Names a user) : CallsFor x a none (.enrol user)
  | replace (principal : String) (user : Reference) (names : x.Names a user) :
      CallsFor x a (some principal) (.replace user)

theorem callsFor_move (x : Authenticator) (a : Assertion) (remembered : Option String) :
    CallsFor x a remembered (x.move a remembered) := by
  cases remembered with
  | none =>
    unfold move
    rcases hu : x.assertedUser a with fault | _ | user
    · exact .fail _ fault hu
    · exact .pass
    · exact .enrol user (assertedUser_eq_some.1 hu)
  | some principal =>
    unfold move
    by_cases ht : x.configuration.trustsVault = true
    · simp only [if_pos ht]
      exact .keep principal (.inl ht)
    simp only [if_neg ht]
    rcases hu : x.assertedUser a with fault | _ | user
    · exact .fail _ fault hu
    · by_cases hk : x.configuration.keepsOnMissing = true
      · simp only [if_pos hk]
        exact .keep principal (.inr hk)
      · simp only [if_neg hk]
        exact .forget principal
    · have hn := assertedUser_eq_some.1 hu
      by_cases he : principal = user.serialize
      · subst he
        simp only [if_true]
        exact .confirm user hn
      · simp only [if_neg he]
        exact .replace principal user hn

/-! ### The request -/

theorem request_store (v : Vault) (e : Exchange) (principal : String) :
    (v.store e principal).request = e.request := by cases v <;> rfl

theorem request_clear (v : Vault) (e : Exchange) : (v.clear e).request = e.request := by
  cases v <;> rfl

/-- What holds of an exchange, and goes on to hold when a vault remembers or forgets, holds after an
authentication. -/
theorem settle_keeps {Q : Exchange → Prop} (hs : ∀ e principal, Q e → Q (x.vault.store e principal))
    (hc : ∀ e, Q e → Q (x.vault.clear e)) (h : Q w.exchange) : Q (x.settle a w).2.exchange := by
  have henrol (user : Reference) {w : World} (h : Q w.exchange) :
      Q (x.enrol a user w).2.exchange := by
    unfold enrol
    rcases x.synchronizeUser a user w.directory with ⟨_ | _ | _, directory⟩
    · exact h
    · exact h
    · exact hs _ _ h
  rw [settle_eq]
  cases x.move a (x.vault.retrieve w.exchange) with
  | answer result => exact h
  | forget => exact hc _ h
  | enrol user => exact henrol user h
  | replace user => exact henrol user (hc _ h)

/-- What no vault changes when it remembers or forgets a user stays the same. -/
theorem observe_settle {α : Type} {f : Exchange → α}
    (hs : ∀ e principal, f (x.vault.store e principal) = f e) (hc : ∀ e, f (x.vault.clear e) = f e) :
    f (x.settle a w).2.exchange = f w.exchange :=
  settle_keeps (Q := fun e => f e = f w.exchange) (fun e principal h => (hs e principal).trans h)
    (fun e h => (hc e).trans h) rfl

/-- Authenticating does not change what was requested. -/
theorem request_settle : (x.settle a w).2.exchange.request = w.exchange.request :=
  observe_settle (f := Exchange.request) (request_store x.vault) (request_clear x.vault)

/-! ### Users that are not synchronized -/

/-- A user that is not synchronized is not enrolled. -/
theorem enrol_of_not_synchronized {user : Reference}
    (h : (x.synchronizeUser a user w.directory).1 ≠ .ok true) :
    (∀ u, (x.enrol a user w).1 ≠ .ok (some u)) ∧
      (x.enrol a user w).2 = { w with directory := (x.synchronizeUser a user w.directory).2 } := by
  unfold enrol
  rcases hs : x.synchronizeUser a user w.directory with ⟨_ | _ | _, d'⟩
  · exact ⟨nofun, rfl⟩
  · exact ⟨nofun, rfl⟩
  · rw [hs] at h
    exact absurd rfl h

/-- Where nobody is remembered and nobody can be synchronized, no user is returned and none is remembered. -/
theorem settle_of_not_synchronized (hv : x.vault.retrieve w.exchange = none)
    (h : ∀ user, (x.synchronizeUser a user w.directory).1 ≠ .ok true) :
    (∀ u, (x.settle a w).1 ≠ .ok (some u)) ∧ (x.settle a w).2.exchange = w.exchange := by
  rw [settle_eq, hv]
  have hm := callsFor_move x a none
  generalize x.move a none = move at hm ⊢
  cases hm with
  | fail => exact ⟨nofun, rfl⟩
  | pass => exact ⟨nofun, rfl⟩
  | enrol user =>
    obtain ⟨hnobody, he⟩ := enrol_of_not_synchronized (a := a) (h user)
    simp only [Move.perform, he]
    exact ⟨hnobody, trivial⟩

/-! ### Logging out -/

/-- A fault of the logout pattern outranks whatever else has come out. -/
theorem authenticate_fst (x : Authenticator) (w : World) :
    (x.authenticate w).1 = x.isLogout w.exchange.request.path >>= fun _ =>
      (x.settle (x.assertion w.exchange.request) w).1 := by
  simp only [authenticate, request_settle]
  rcases x.isLogout w.exchange.request.path with fault | _ | _ <;> rfl

/-- Logging out touches nothing but the exchange. -/
theorem authenticate_snd (x : Authenticator) (w : World) :
    (x.authenticate w).2.directory = (x.settle (x.assertion w.exchange.request) w).2.directory ∧
      (x.authenticate w).2.heard = (x.settle (x.assertion w.exchange.request) w).2.heard := by
  simp only [authenticate, request_settle]
  rcases x.isLogout w.exchange.request.path with fault | _ | _ <;> exact ⟨rfl, rfl⟩

end IdentityBridge.Authenticator
