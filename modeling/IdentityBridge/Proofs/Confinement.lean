import Mathlib
import IdentityBridge.Proofs.Enrolment

/-! How far an authentication reaches. It writes to the profile of the user and to the groups of the
delta and to no other page, brings no page into being but the profile and groups that may be created, and
changes no membership but those of the user. This holds however it ends and whatever accesses fail on the
way. -/

namespace IdentityBridge

namespace Directory

variable {d d' d₁ d₂ d₃ : Directory} {user group : Reference} {comment : String}
  {touched touched' made made' : List Reference}

/-- Only some pages are touched, only some are new, and no membership of anybody else changes. -/
structure Confined (user : Reference) (touched made : List Reference) (d d' : Directory) : Prop extends
    Changes user touched d d' where
  new : ∀ g, d'.contains g = true → d.contains g = true ∨ g ∈ made

theorem Confined.refl (user : Reference) (touched made : List Reference) (d : Directory) :
    Confined user touched made d d :=
  ⟨⟨.refl user d, fun _ _ => rfl, fun _ _ => rfl, rfl⟩, fun _ h => .inl h⟩

theorem Confined.trans (h : Confined user touched made d₁ d₂) (h' : Confined user touched' made' d₂ d₃) :
    Confined user (touched ++ touched') (made ++ made') d₁ d₃ := by
  refine ⟨h.toChanges.trans h'.toChanges, fun g hg => ?_⟩
  rcases h'.new g hg with hg | hg
  · exact (h.new g hg).imp id (List.mem_append_left _)
  · exact .inr (List.mem_append_right _ hg)

theorem Confined.mono (h : Confined user touched made d d') (ht : touched ⊆ touched')
    (hm : made ⊆ made') : Confined user touched' made' d d' :=
  ⟨⟨h.agree, fun g hg => h.page g fun hg' => hg (ht hg'),
    fun g hg => h.contains g fun hg' => hg (ht hg'), h.outages⟩, fun g hg => (h.new g hg).imp id (@hm g)⟩

/-- A page that is not touched is the same page, or missing as before. -/
theorem Changes.find? (h : Changes user touched d d') {g : Reference} (hg : g ∉ touched) :
    d'.pages.find? g = d.pages.find? g := by
  have hp := h.page g hg
  have hc := h.contains g hg
  unfold Directory.page at hp
  unfold Directory.contains Table.contains at hc
  cases hd : d.pages.find? g <;> cases hd' : d'.pages.find? g <;> simp_all

/-! ### Profiles -/

/-- Saving the page of a user with the members that it has listed before. -/
theorem confined_put {p : Page} (hp : p.reference = user)
    (he : p.memberEntries = (d.page user).memberEntries) (comment : String) :
    Confined user [user] [user] d (d.put p comment) := by
  refine ⟨changes_put hp fun m _ => ?_, fun g hg => ?_⟩
  · rw [membersOf_put, if_pos hp, he, membersOf_eq_map]
  · rw [contains_put, Bool.or_eq_true, decide_eq_true_eq, hp] at hg
    rcases hg with rfl | hg
    · exact .inr (List.mem_singleton.2 rfl)
    · exact .inl hg

/-- What an operation saves of the page of a user, if it gets so far. -/
theorem confined_save {p : Page} (hp : p.reference = user)
    (he : p.memberEntries = (d.page user).memberEntries) :
    Confined user [user] [user] d
      (d.attempt (do return (true, ← d.save p comment))).2 := by
  rcases save_cases d p comment with hs | ⟨⟨e, hs⟩, -⟩
  · rw [hs]
    exact confined_put hp he comment
  · rw [hs]
    exact .refl user _ _ d

theorem createProfile_confined (d : Directory) (known : List String) (user : Reference)
    (facts : Fields) : Confined user [user] [user] d (d.createProfile known user facts).2 := by
  unfold createProfile
  rcases load_cases d user with hl | ⟨⟨e, hl⟩, -⟩
  · rw [hl, Outcome.ok_bind]
    split
    · exact .refl user _ _ d
    · exact confined_save (reference_add d user _ _) (Page.memberEntries_add_of_ne _ userClass_ne _)
  · rw [hl]
    exact .refl user _ _ d

theorem updateProfile_confined (d : Directory) (known : List String) (user : Reference)
    (facts : Fields) (comment : String) :
    Confined user [user] [user] d (d.updateProfile known user facts comment).2 := by
  unfold updateProfile
  rcases load_cases d user with hl | ⟨⟨e, hl⟩, -⟩
  · rw [hl, Outcome.ok_bind]
    split
    · exact .refl user _ _ d
    dsimp only
    split
    · exact .refl user _ _ d
    · exact confined_save ((reference_write _ _).trans (reference_page d user)) (memberEntries_write _ _)
  · rw [hl]
    exact .refl user _ _ d

/-! ### Pushes -/

theorem Joins.new {create : Bool} {r : Bool × Directory} (h : Joins d user group comment create r)
    {g : Reference} (hg : r.2.contains g = true) : d.contains g = true ∨ g = group ∧ create = true := by
  cases h with
  | refused => exact .inl hg
  | listed => exact .inl hg
  | added _ hc =>
    rw [contains_put, reference_add, Bool.or_eq_true, decide_eq_true_eq] at hg
    rcases hg with rfl | hg
    · exact hc.imp id fun h => ⟨rfl, h⟩
    · exact .inl hg

theorem joins_confined (hw : user.wiki ≠ "") (comment : String) (create : Bool)
    (groups : List Reference) (d : Directory) :
    Confined user groups (if create then groups else []) d
      (onEach (fun d g => d.join user g comment create) d groups).2 := by
  refine ⟨changes_joins hw comment create groups d, ?_⟩
  induction groups generalizing d with
  | nil => exact fun g hg => .inl hg
  | cons first rest ih =>
    intro g hg
    rw [onEach_cons] at hg
    rcases ih _ g hg with hg | hg
    · rcases (join_joins d user first comment create).new hg with hg | ⟨rfl, rfl⟩
      · exact .inl hg
      · exact .inr List.mem_cons_self
    · cases create with
      | true => exact .inr (List.mem_cons_of_mem _ hg)
      | false => cases hg

theorem leaves_confined (hw : user.wiki ≠ "") (comment : String) (groups : List Reference)
    (d : Directory) :
    Confined user groups [] d (onEach (fun d g => d.leave user g comment) d groups).2 := by
  refine ⟨changes_leaves hw comment groups d, fun g hg => .inl ?_⟩
  have hsame := onEach_rel (R := fun d d' : Directory => d'.contains g = d.contains g)
    (fun _ => rfl) (fun h h' => h'.trans h)
    (fun d g' => (leave_leaves d user g' comment).contains g) d groups
  rwa [← hsame]

theorem push_confined (hw : user.wiki ≠ "") (d : Directory) (joins creates leaves : List Reference)
    (comment : String) :
    Confined user (joins ++ creates ++ leaves) creates d
      (d.synchronizeMembership user joins creates leaves comment).2 := by
  rcases groups_cases d user with hg | ⟨⟨e, he⟩, -⟩
  · rw [synchronizeMembership_eq hg]
    have h := ((joins_confined hw comment false (joins.filter (· ∉ d.groupsOf user)) d).trans
      (joins_confined hw comment true (creates.filter (· ∉ d.groupsOf user)) _)).trans
      (leaves_confined hw comment (leaves.filter (· ∈ d.groupsOf user)) _)
    refine h.mono (fun g hg => ?_) (by simp)
    simp only [List.mem_append, List.mem_filter] at hg ⊢
    exact hg.imp (Or.imp And.left And.left) And.left
  · rw [synchronizeMembership, he]
    exact .refl user _ _ d

end Directory

namespace Authenticator

open Directory

variable {x : Authenticator} {a : Assertion} {user : Reference} {d : Directory} {w : World}

/-! ### Synchronizing a user -/

/-- The pages that synchronizing a user may change: the profile and the groups of the delta. -/
def changeable (x : Authenticator) (a : Assertion) (user : Reference) (d : Directory) :
    List Reference :=
  match x.deltaOf a user d with
  | .ok (some δ) => user :: (δ.joins ++ δ.creates ++ δ.leaves)
  | _ => [user]

/-- The pages that synchronizing a user may bring into being: the profile and the groups that the delta
may create. -/
def creatable (x : Authenticator) (a : Assertion) (user : Reference) (d : Directory) :
    List Reference :=
  match x.deltaOf a user d with
  | .ok (some δ) => user :: δ.creates
  | _ => [user]

theorem ensureProfile_confined (x : Authenticator) (user : Reference) (facts : Fields)
    (d : Directory) : Confined user [user] [user] d (x.ensureProfile user facts d).2 := by
  unfold ensureProfile
  rcases d.exists? user with e | _ | _
  · exact .refl user _ _ d
  · exact createProfile_confined d x.accounts.known user facts
  · by_cases he : facts.isEmpty = true
    · simp only [if_pos he]
      exact .refl user _ _ d
    by_cases ho : d.outages.profileUpdate = true
    · simp only [if_neg he, Accounts.update, if_pos ho]
      exact .refl user _ _ d
    · simp only [if_neg he, Accounts.update, if_neg ho]
      exact updateProfile_confined d x.accounts.known user facts profileComment

/-- Synchronizing groups does nothing unless there is a delta, and then no more than push it. -/
theorem synchronizeGroups_confined (hs : x.accounts.shards = none) (hf : NoFields x.configuration)
    (hw : user.wiki ≠ "") :
    (x.synchronizeGroups a user d).2 = d ∨
      ∃ δ, Entitlement.delta x.configuration a user d = .ok (some δ, d) ∧
        Confined user (δ.joins ++ δ.creates ++ δ.leaves) δ.creates d
          (x.synchronizeGroups a user d).2 := by
  unfold synchronizeGroups
  rcases hδ : Entitlement.delta x.configuration a user d with fault | ⟨_ | δ, d'⟩
  · exact .inl rfl
  · exact .inl (Entitlement.directory_of_delta hf hδ)
  · obtain rfl := Entitlement.directory_of_delta hf hδ
    refine .inr ⟨δ, rfl, ?_⟩
    dsimp only
    split
    · exact .refl user _ _ d'
    · rw [Accounts.synchronizeMembership, hs]
      exact push_confined hw d' δ.joins δ.creates δ.leaves groupComment

theorem mem_changeable_self : user ∈ x.changeable a user d := by
  unfold changeable
  split <;> exact List.mem_cons_self

theorem mem_creatable_self : user ∈ x.creatable a user d := by
  unfold creatable
  split <;> exact List.mem_cons_self

/-- Synchronizing a user is confined to the profile and the groups of the delta. -/
theorem synchronizeUser_confined (hs : x.accounts.shards = none) (hf : NoFields x.configuration)
    (hw : user.wiki ≠ "") :
    Confined user (x.changeable a user d) (x.creatable a user d) d (x.synchronizeUser a user d).2 := by
  unfold synchronizeUser
  cases hfacts : x.assertedFacts a with
  | error fault => exact .refl user _ _ d
  | ok facts =>
    have hp := ensureProfile_confined x user facts d
    -- As long as there is no delta, only the profile may have changed.
    have halone {d' : Directory} (h : Confined user [user] [user] d d') :
        Confined user (x.changeable a user d) (x.creatable a user d) d d' :=
      h.mono (by simpa using mem_changeable_self) (by simpa using mem_creatable_self)
    rcases he : x.ensureProfile user facts d with ⟨_ | _, d₀⟩
    · simp only [he] at hp ⊢
      exact halone hp
    simp only [he] at hp ⊢
    rcases synchronizeGroups_confined (a := a) (d := d₀) hs hf hw with hd | ⟨δ, hδ, hg⟩
    · rw [hd]
      exact halone hp
    · have htold : x.deltaOf a user d = .ok (some δ) := by
        rw [deltaOf, hfacts, Outcome.ok_bind, he, hδ]
        rfl
      rw [changeable, creatable, htold]
      exact hp.trans hg

/-! ### Authentications -/

theorem directory_enrol (x : Authenticator) (a : Assertion) (user : Reference) (w : World) :
    (x.enrol a user w).2.directory = (x.synchronizeUser a user w.directory).2 := by
  unfold enrol
  rcases x.synchronizeUser a user w.directory with ⟨_ | _ | _, d'⟩ <;> rfl

/-- An authentication leaves the directory as it is or synchronizes the user that is asserted. -/
theorem directory_authenticate (x : Authenticator) (w : World) :
    (x.authenticate w).2.directory = w.directory ∨
      ∃ user, x.Names (x.assertion w.exchange.request) user ∧
        (x.authenticate w).2.directory =
          (x.synchronizeUser (x.assertion w.exchange.request) user w.directory).2 := by
  rw [(authenticate_snd x w).1, settle_eq]
  generalize x.assertion w.exchange.request = a
  have hm := callsFor_move x a (x.vault.retrieve w.exchange)
  generalize x.vault.retrieve w.exchange = remembered at hm ⊢
  generalize x.move a remembered = move at hm ⊢
  cases hm with
  | keep => exact .inl rfl
  | confirm => exact .inl rfl
  | fail => exact .inl rfl
  | pass => exact .inl rfl
  | forget => exact .inl rfl
  | enrol user names => exact .inr ⟨user, names, directory_enrol x a user w⟩
  | replace _ user names => exact .inr ⟨user, names, directory_enrol x a user (x.forget w)⟩

/-- An authentication of some user, however it ends, changes no page but the profile of the user and the
groups of the delta, brings no page into being but the profile and the groups that may be created, and
leaves every membership of anybody else as it is. Without an asserted user it changes nothing. -/
theorem authenticate_confined (hs : x.accounts.shards = none) (hf : NoFields x.configuration)
    (hwiki : x.configuration.mainWiki ≠ "") (w : World) :
    (∀ user, x.assertedUser (x.assertion w.exchange.request) = .ok (some user) →
      (∀ g, g ∉ x.changeable (x.assertion w.exchange.request) user w.directory →
        (x.authenticate w).2.directory.pages.find? g = w.directory.pages.find? g) ∧
      (∀ g, (x.authenticate w).2.directory.contains g = true → w.directory.contains g = true ∨
        g ∈ x.creatable (x.assertion w.exchange.request) user w.directory) ∧
      ∀ g v, v ≠ user →
        (v ∈ (x.authenticate w).2.directory.membersOf g ↔ v ∈ w.directory.membersOf g)) ∧
    ((∀ user, x.assertedUser (x.assertion w.exchange.request) ≠ .ok (some user)) →
      (x.authenticate w).2.directory = w.directory) := by
  rcases directory_authenticate x w with hd | ⟨user, hn, hd⟩
  · rw [hd]
    exact ⟨fun _ _ => ⟨fun _ _ => rfl, fun _ h => .inl h, fun _ _ _ => Iff.rfl⟩, fun _ => rfl⟩
  · have hu := assertedUser_eq_some.2 hn
    have hw : user.wiki ≠ "" := by rwa [hn.wiki]
    have hc := synchronizeUser_confined (a := x.assertion w.exchange.request) (d := w.directory)
      hs hf hw
    rw [hd, hu]
    refine ⟨fun user' he => ?_, fun hnone => absurd rfl (hnone user)⟩
    cases he
    exact ⟨fun g => hc.find?, hc.new, fun g v hv => hc.agree v g hv⟩

theorem hired_roster : hired.directory.membersOf staff = [carol] := by cbv

theorem office_asserted :
    office.assertedUser (office.assertion hired.exchange.request) = .ok (some dora) := by cbv

/-- Whoever is on the staff stays there when somebody else is hired. -/
theorem office_confined :
    carol ∈ (office.authenticate hired).2.directory.membersOf staff ∧
      ∀ g, (office.authenticate hired).2.directory.contains g = true →
        hired.directory.contains g = true ∨ g = dora := by
  obtain ⟨-, hnew, hagree⟩ := (authenticate_confined (x := office) rfl office_noFields (by decide)
    hired).1 dora office_asserted
  have hcarol : carol ∈ hired.directory.membersOf staff := by
    rw [hired_roster]
    exact List.mem_singleton.2 rfl
  refine ⟨(hagree staff carol (by decide)).2 hcarol, fun g hg => (hnew g hg).imp id fun h => ?_⟩
  rw [creatable, office_deltaOf] at h
  exact List.mem_singleton.1 h

end Authenticator

end IdentityBridge
