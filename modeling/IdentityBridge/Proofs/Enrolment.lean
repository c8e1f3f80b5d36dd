import Mathlib
import IdentityBridge.Proofs.Entitlement.Stable
import IdentityBridge.Proofs.Membership.Flat
import IdentityBridge.Proofs.Profile
import IdentityBridge.Proofs.Session.Turn

/-! One enrolment is enough. After a user has been synchronized, the profile holds what was asserted and
the user is in exactly the groups that the delta asked for; doing it all again finds nothing to create,
to update, to join or to leave, and saves no page. -/

namespace IdentityBridge

namespace Directory

/-- No member of a group is a group itself, or is to be joined; nor is the user to be joined. -/
structure Apart (d : Directory) (user : Reference) (δ : Delta) : Prop where
  not_group (m g : Reference) : m ∈ d.membersOf g → (d.page m).objectsOf Page.groupClass = []
  not_added (m g : Reference) : m ∈ d.membersOf g → m ∉ δ.added
  user_not_added : user ∉ δ.added

variable {d d₀ : Directory} {user : Reference} {δ : Delta}

theorem Apart.not_member (h : d.Apart user δ) {m first g : Reference} (hm : m ∈ d.membersOf first) :
    first ∉ d.membersOf g := fun hf => objectsOf_of_member hm (h.not_group first g hf)

theorem Apart.flat (h : d.Apart user δ) (hm : ∀ g, d₀.membersOf g = d.membersOf g) :
    d₀.Flat user := by
  apply flat_of_not_member
  intro first g hf hg
  rw [hm] at hf hg
  exact h.not_member hf hg

/-- The page of the user is not among those that a push touches. -/
theorem Apart.untouched (h : d.Apart user δ) {current : List Reference}
    (hc : ∀ g, g ∈ current ↔ user ∈ d.membersOf g) :
    user ∉ δ.joins.filter (· ∉ current) ++ δ.creates.filter (· ∉ current) ++
      δ.leaves.filter (· ∈ current) := by
  have hn := h.user_not_added
  rw [Delta.mem_added, not_or] at hn
  simp only [List.mem_append, List.mem_filter, decide_eq_true_eq]
  rintro ((⟨hj, -⟩ | ⟨hc, -⟩) | ⟨-, hu⟩)
  · exact hn.1 hj
  · exact hn.2 hc
  · have hu := (hc user).1 hu
    exact h.not_member hu hu

/-- After a push as well, the user belongs to no group by way of another one. -/
theorem Apart.flat_push (h : d.Apart user δ) {d' : Directory} (ha : AgreeBut user d d')
    (hm : ∀ g, user ∈ d'.membersOf g → user ∈ d.membersOf g ∨ g ∈ δ.added) : d'.Flat user := by
  apply flat_of_not_member
  intro first g hf hg
  by_cases he : first = user
  · subst he
    rcases hm first hf with hf | hf
    · exact h.not_member hf hf
    · exact h.user_not_added hf
  · have hg := (ha first g he).1 hg
    rcases hm first hf with hf | hf
    · exact h.not_member hf hg
    · exact h.not_added first g hg hf

end Directory

namespace Authenticator

open Directory

variable {x : Authenticator} {a : Assertion} {user : Reference} {d d' : Directory} {facts : Fields}

/-! ### Steps of an enrolment -/

theorem exists_of_outages (ho : d.outages = {}) : d.exists? user = .ok (d.contains user) := by
  rw [Directory.exists?, reach_of_outages ho]
  rfl

/-- Without an outage there is a profile in the end, and it holds the facts. -/
theorem ensureProfile_profiled (x : Authenticator) (user : Reference) (facts : Fields)
    (ho : d.outages = {}) :
    ∃ d₀, x.ensureProfile user facts d = (true, d₀) ∧
      Profiled x.accounts.known user facts d d₀ := by
  unfold ensureProfile
  rw [exists_of_outages ho]
  cases hc : d.contains user with
  | false =>
    obtain ⟨hdone, hp⟩ := createProfile_profiled ho hc x.accounts.known facts
    exact ⟨_, Prod.ext hdone rfl, hp⟩
  | true =>
    by_cases he : facts.isEmpty = true
    · refine ⟨d, by simp only [if_pos he], rfl, fun _ => rfl, fun _ _ => rfl, hc, ?_⟩
      intro key value hf
      obtain ⟨hf, -⟩ := Profile.find?_restrict.1 hf
      have hm := Table.find?_eq_some.1 hf
      rw [List.isEmpty_iff.1 he] at hm
      cases hm
    · have hu : d.outages.profileUpdate = false := by rw [ho]
      refine ⟨_, ?_, updateProfile_profiled ho hc x.accounts.known facts profileComment⟩
      simp only [if_neg he, Accounts.update, hu, Bool.false_eq_true, if_false]

/-- A profile that holds the facts stays as it is. -/
theorem ensureProfile_of_holds (ho : d.outages = {}) (hc : d.contains user = true)
    (hh : d.Holds x.accounts.known user facts) : x.ensureProfile user facts d = (true, d) := by
  unfold ensureProfile
  rw [exists_of_outages ho, hc]
  by_cases he : facts.isEmpty = true
  · simp only [if_pos he]
  · have hu : d.outages.profileUpdate = false := by rw [ho]
    simp only [if_neg he, Accounts.update, hu, Bool.false_eq_true, if_false,
      updateProfile_of_holds ho hc hh]

/-- Without shards, synchronizing groups is pushing the delta. -/
theorem synchronizeGroups_eq (hs : x.accounts.shards = none) (ho : d.outages = {}) {δ : Delta}
    (hδ : Entitlement.delta x.configuration a user d = .ok (some δ, d)) :
    x.synchronizeGroups a user d =
      (.ok true, (d.synchronizeMembership user δ.joins δ.creates δ.leaves groupComment).2) := by
  simp only [synchronizeGroups, hδ]
  by_cases he : δ.isEmpty = true
  · rw [if_pos he]
    simp only [Delta.isEmpty, Bool.and_eq_true, List.isEmpty_iff] at he
    obtain ⟨⟨hj, hc⟩, hl⟩ := he
    rw [push_settled ho (by simp [hj]) (by simp [hc]) (by simp [hl])]
  · rw [if_neg he, Accounts.synchronizeMembership, hs]

/-- The delta that is computed when a user is synchronized: from the directory in which the profile has
been seen to. -/
def deltaOf (x : Authenticator) (a : Assertion) (user : Reference) (d : Directory) :
    Except Fault (Option Delta) := do
  let facts ← x.assertedFacts a
  let (delta, _) ← Entitlement.delta x.configuration a user (x.ensureProfile user facts d).2
  return delta

/-- No rule records the groups that it creates. -/
def NoFields (c : Configuration) : Prop :=
  ∀ rules, c.rules? = some rules → ∀ rule ∈ rules, rule.field = none

/-- An enrolment with success sees to the profile and pushes the delta. -/
theorem synchronizeUser_ok (hs : x.accounts.shards = none) (hf : NoFields x.configuration)
    (ho : d.outages = {}) (h : x.synchronizeUser a user d = (.ok true, d')) :
    ∃ facts d₀ f core test δ, x.assertedFacts a = .ok facts ∧
      Profiled x.accounts.known user facts d d₀ ∧ Entitlement.Follows f core test ∧
      (∀ d₂ : Directory, d₂.outages = {} →
        Entitlement.delta x.configuration a user d₂ = .ok (some (f (d₂.groupsOf user)), d₂)) ∧
      f (d₀.groupsOf user) = δ ∧ x.deltaOf a user d = .ok (some δ) ∧
      (d₀.synchronizeMembership user δ.joins δ.creates δ.leaves groupComment).2 = d' := by
  unfold synchronizeUser at h
  cases hfacts : x.assertedFacts a with
  | error fault =>
    rw [hfacts] at h
    cases h
  | ok facts =>
    obtain ⟨d₀, he, hp⟩ := ensureProfile_profiled x user facts ho
    have ho₀ : d₀.outages = {} := hp.outages.trans ho
    simp only [hfacts, he] at h
    have hsome : ∃ δ d₁, Entitlement.delta x.configuration a user d₀ = .ok (some δ, d₁) := by
      unfold synchronizeGroups at h
      rcases hδ : Entitlement.delta x.configuration a user d₀ with fault | ⟨_ | δ, d₁⟩
      · rw [hδ] at h
        cases h
      · rw [hδ] at h
        cases h
      · exact ⟨δ, d₁, rfl⟩
    obtain ⟨δ, d₁, hδ⟩ := hsome
    obtain ⟨f, core, test, hfol, hall⟩ := Entitlement.delta_follows hf hδ
    refine ⟨facts, d₀, f, core, test, _, rfl, hp, hfol, hall, rfl, ?_, ?_⟩
    · rw [deltaOf, hfacts, Outcome.ok_bind, he, hall d₀ ho₀]
      rfl
    · rw [synchronizeGroups_eq hs ho₀ (hall d₀ ho₀)] at h
      exact congrArg Prod.snd h

/-! ### The directory afterwards -/

/-- After an enrolment with success the user is in the groups that the delta asked for, as far as there
are groups to join, and enrolling again changes nothing. -/
theorem synchronizeUser_settles (hs : x.accounts.shards = none) (hf : NoFields x.configuration)
    (hw : user.wiki ≠ "") (ho : d.outages = {}) (hd : d.Canonical)
    (h : x.synchronizeUser a user d = (.ok true, d')) :
    ∃ δ, x.deltaOf a user d = .ok (some δ) ∧ (d.Apart user δ →
      (∀ g, user ∈ d'.membersOf g ↔ user ∈ d.membersOf g ∧ g ∉ δ.leaves ∨
        g ∈ δ.joins ∧ d.contains g = true ∨ g ∈ δ.creates) ∧
      x.synchronizeUser a user d' = (.ok true, d')) := by
  obtain ⟨facts, d₀, f, core, test, δ, hfacts, hp, hfol, hall, hf₀, hδ, hd'⟩ :=
    synchronizeUser_ok hs hf ho h
  refine ⟨δ, hδ, fun hapart => ?_⟩
  have ho₀ : d₀.outages = {} := hp.outages.trans ho
  have hflat₀ : d₀.Flat user := hapart.flat hp.membersOf
  have hleaves := hfol.leaves_apart (d₀.groupsOf user)
  have hsettled := hfol.settled (d₀.groupsOf user) (d'.groupsOf user) (d₀.contains · = true)
  rw [hf₀] at hleaves hsettled
  -- What the push makes of the memberships, and what it leaves alone.
  obtain ⟨hm, he⟩ := push_exact hw ho₀ (hd.of_entries hp.memberEntries) hflat₀ hleaves groupComment
  have hch := changes_push hw ho₀ δ.joins δ.creates δ.leaves groupComment
  rw [hd'] at hm he hch
  have ho' : d'.outages = {} := hch.outages.trans ho₀
  have hflat' : d'.Flat user := by
    refine hapart.flat_push (fun m g hne => ?_) fun g hg => ?_
    · rw [hch.agree m g hne, hp.membersOf]
    · rw [Delta.mem_added, ← hp.membersOf]
      rcases (hm g).1 hg with ⟨hg, -⟩ | ⟨hg, -⟩ | hg
      · exact .inl hg
      · exact .inr (.inl hg)
      · exact .inr (.inr hg)
  constructor
  · intro g
    have hg : g ∈ δ.joins → d₀.contains g = d.contains g := by
      intro hg
      apply hp.contains g
      rintro rfl
      exact hapart.user_not_added (Delta.mem_added.2 (.inl hg))
    rw [hm g, hp.membersOf]
    exact or_congr_right (or_congr_left (and_congr_right fun h => by rw [hg h]))
  -- The profile is as it was left, and the new delta has nothing to do.
  · have hu := hapart.untouched fun g => by rw [hflat₀ g, hp.membersOf]
    have hcu : d'.contains user = true := (hch.contains user hu).trans hp.exists_profile
    have hh : d'.Holds x.accounts.known user facts := by
      intro key value hv
      rw [hch.page user hu]
      exact hp.holds key value hv
    obtain ⟨hl, hc, hj⟩ := hsettled fun g => by rw [hflat' g, hm g, hflat₀ g]
    have hpush : (d'.synchronizeMembership user (f (d'.groupsOf user)).joins
        (f (d'.groupsOf user)).creates (f (d'.groupsOf user)).leaves groupComment).2 = d' := by
      refine push_settled ho' (fun g hg hn => ?_) hc hl
      rw [← Bool.not_eq_true, he g]
      rintro (hpresent | hcreated)
      · exact hj g hg hn hpresent
      · rw [← hf₀, hfol.creates, ← hfol.creates (d'.groupsOf user)] at hcreated
        exact hn (hc g hcreated)
    simp only [synchronizeUser, hfacts, ensureProfile_of_holds ho' hcu hh,
      synchronizeGroups_eq hs ho' (hall d' ho'), hpush]

/-! ### Authentications with nobody remembered -/

variable {w w' : World}

/-- With nobody remembered, the asserted user is enrolled. -/
theorem settle_fresh (hr : x.vault.retrieve w.exchange = none)
    (hu : x.assertedUser a = .ok (some user)) : x.settle a w = x.enrol a user w := by
  simp only [settle_eq, hr, move, hu, Move.perform]

theorem enrol_ok {outcome : Option Reference} (h : (x.enrol a user w).1 = .ok outcome) :
    x.synchronizeUser a user w.directory =
      (.ok outcome.isSome, (x.enrol a user w).2.directory) := by
  unfold enrol at h ⊢
  rcases hs : x.synchronizeUser a user w.directory with ⟨fault | _ | _, directory⟩
  · rw [hs] at h
    cases h
  · rw [hs] at h
    cases h
    rfl
  · rw [hs] at h
    cases h
    rfl

theorem enrol_of_synchronized (hs : x.synchronizeUser a user w.directory = (.ok true, d')) :
    (x.enrol a user w).1 = .ok (some user) ∧ (x.enrol a user w).2.directory = d' := by
  rw [enrol, hs]
  exact ⟨rfl, rfl⟩

/-- A logout pattern that can be read is read for every path. -/
theorem isLogout_ok {path : String} {logout : Bool} (h : x.isLogout path = .ok logout)
    (path' : String) : ∃ logout', x.isLogout path' = .ok logout' := by
  unfold isLogout matchesPath at *
  cases hp : Pattern.read x.configuration.logoutPattern x.configuration.characters with
  | error cause =>
    rw [hp] at h
    cases h
  | ok pattern => exact ⟨_, rfl⟩

/-- Where the logout pattern can be read, logging out touches neither the result nor the directory. -/
theorem authenticate_of_isLogout {logout : Bool}
    (h : x.isLogout w.exchange.request.path = .ok logout) :
    (x.authenticate w).1 = (x.settle (x.assertion w.exchange.request) w).1 ∧
      (x.authenticate w).2.directory =
        (x.settle (x.assertion w.exchange.request) w).2.directory := by
  refine ⟨?_, (authenticate_snd x w).1⟩
  rw [authenticate_fst, h, Outcome.ok_bind]

theorem isLogout_of_authenticate {outcome : Option Reference}
    (h : (x.authenticate w).1 = .ok outcome) :
    ∃ logout, x.isLogout w.exchange.request.path = .ok logout := by
  rw [authenticate_fst, Outcome.bind_eq_ok] at h
  obtain ⟨logout, hl, -⟩ := h
  exact ⟨logout, hl⟩

/-- A user is returned, with nobody remembered, only by an enrolment of the asserted user. -/
theorem enrolled_of_authenticate (hr : x.vault.retrieve w.exchange = none)
    (h : x.authenticate w = (.ok (some user), w')) :
    x.assertedUser (x.assertion w.exchange.request) = .ok (some user) ∧
      x.synchronizeUser (x.assertion w.exchange.request) user w.directory =
        (.ok true, w'.directory) := by
  obtain ⟨logout, hl⟩ := isLogout_of_authenticate (congrArg Prod.fst h)
  obtain ⟨hres, hdir⟩ := authenticate_of_isLogout hl
  rw [h] at hres hdir
  generalize x.assertion w.exchange.request = a at *
  rcases hu : x.assertedUser a with fault | _ | named
  · simp [settle_eq, hr, move, hu, Move.perform] at hres
  · simp [settle_eq, hr, move, hu, Move.perform] at hres
  · rw [settle_fresh hr hu] at hres hdir
    have hsync := enrol_ok hres.symm
    have hnamed : named = user := by
      have hn := (enrol_of_synchronized hsync).1
      rw [← hres] at hn
      cases hn
      rfl
    subst hnamed
    exact ⟨rfl, by rw [hsync, ← hdir]; rfl⟩

/-- Authenticating with nobody remembered brings the user into the groups that the delta asks for, as far
as there are groups to join. Authenticating again by the same assertion, again with nobody remembered,
returns the same user and leaves the directory, with all that has been saved, as it is. -/
theorem authenticate_converges (hs : x.accounts.shards = none) (hf : NoFields x.configuration)
    (hwiki : x.configuration.mainWiki ≠ "") (ho : w.directory.outages = {})
    (hd : w.directory.Canonical) (hr : x.vault.retrieve w.exchange = none)
    (h : x.authenticate w = (.ok (some user), w')) :
    ∃ δ, x.deltaOf (x.assertion w.exchange.request) user w.directory = .ok (some δ) ∧
      (w.directory.Apart user δ →
        (∀ g, user ∈ w'.directory.membersOf g ↔
          user ∈ w.directory.membersOf g ∧ g ∉ δ.leaves ∨
            g ∈ δ.joins ∧ w.directory.contains g = true ∨ g ∈ δ.creates) ∧
        ∀ w₂ : World, w₂.directory = w'.directory → x.vault.retrieve w₂.exchange = none →
          x.assertion w₂.exchange.request = x.assertion w.exchange.request →
          ∃ w₃, x.authenticate w₂ = (.ok (some user), w₃) ∧ w₃.directory = w'.directory) := by
  obtain ⟨hu, hsync⟩ := enrolled_of_authenticate hr h
  obtain ⟨_, hl⟩ := isLogout_of_authenticate (congrArg Prod.fst h)
  have hw : user.wiki ≠ "" := by
    obtain ⟨_, -, -, -, rfl⟩ := assertedUser_eq_some.1 hu
    exact hwiki
  obtain ⟨δ, hδ, hset⟩ := synchronizeUser_settles hs hf hw ho hd hsync
  refine ⟨δ, hδ, fun hapart => ?_⟩
  obtain ⟨hm, hagain⟩ := hset hapart
  refine ⟨hm, fun w₂ hd₂ hr₂ ha₂ => ?_⟩
  obtain ⟨_, hl₂⟩ := isLogout_ok hl w₂.exchange.request.path
  obtain ⟨hres, hdir⟩ := authenticate_of_isLogout hl₂
  rw [ha₂, settle_fresh hr₂ hu] at hres hdir
  rw [← hd₂] at hagain
  obtain ⟨he₁, he₂⟩ := enrol_of_synchronized hagain
  exact ⟨_, Prod.ext (hres.trans he₁) rfl, hdir.trans (he₂.trans hd₂)⟩

/-! ### An example -/

/-- Workers belong to the staff and guests to the guests. -/
def office : Authenticator where
  configuration := .ofSettings {
    properties := .ofList [("authentication.trusted.groupsMapping", "Staff=worker|Guests=guest")]
    logoutPage := some "/bye" }
  assertion _ := {
    uid := .ok (some "Dora")
    name := .ok (some "Dora")
    property := fun _ => .ok none
    roles := .ok (some ["worker"])
    logoutUrl := fun _ => none }
  vault := .session

def dora : Reference := .inSpace "xwiki" "XWiki" "dora"

def guests : Reference := .inSpace "xwiki" "XWiki" "Guests"

/-- One user is of the staff, and another one, without a profile yet, is a guest. -/
def hired : World where
  directory := (Directory.empty.put (groupPage staff "XWiki.carol") "").put
    (groupPage guests "XWiki.dora") ""
  exchange := { request := {}, session := some {} }

theorem office_rules : office.configuration.rules? = some [] := by cbv

theorem office_enrols : (office.authenticate hired).1 = .ok (some dora) := by cbv

/-- The delta of the example. -/
def transfer : Delta where
  joins := [staff]
  leaves := [guests]
  granted := [staff]
  withheld := [guests]

theorem office_deltaOf :
    office.deltaOf (office.assertion hired.exchange.request) dora hired.directory =
      .ok (some transfer) := by
  cbv

theorem staff_entries :
    (groupPage staff "XWiki.carol").memberEntries = [Page.memberName staff carol] := by cbv

theorem guests_entries :
    (groupPage guests "XWiki.dora").memberEntries = [Page.memberName guests dora] := by cbv

theorem hired_canonical : hired.directory.Canonical :=
  (canonical_empty.put_groupPage (m := carol) (by decide) (by cbv) _).put_groupPage (m := dora)
    (by decide) (by cbv) _

theorem hired_member {m g : Reference} (h : m ∈ hired.directory.membersOf g) :
    m = dora ∨ m = carol := by
  change m ∈ ((Directory.empty.put (groupPage staff "XWiki.carol") "").put
    (groupPage guests "XWiki.dora") "").membersOf g at h
  rw [membersOf_put, membersOf_put, guests_entries, staff_entries] at h
  have hg : (groupPage guests "XWiki.dora").reference = guests := rfl
  have hs : (groupPage staff "XWiki.carol").reference = staff := rfl
  rw [hg, hs] at h
  by_cases hgg : guests = g
  · subst hgg
    rw [if_pos rfl, List.map_singleton, resolveOn_memberName (by decide), List.mem_singleton] at h
    exact .inl h
  rw [if_neg hgg] at h
  by_cases hgs : staff = g
  · subst hgs
    rw [if_pos rfl, List.map_singleton, resolveOn_memberName (by decide), List.mem_singleton] at h
    exact .inr h
  · rw [if_neg hgs] at h
    cases h

theorem dora_not_group : (hired.directory.page dora).objectsOf Page.groupClass = [] := by cbv

theorem carol_not_group : (hired.directory.page carol).objectsOf Page.groupClass = [] := by cbv

theorem hired_apart : hired.directory.Apart dora transfer := by
  refine ⟨fun m g hm => ?_, fun m g hm => ?_, by decide⟩
  · rcases hired_member hm with rfl | rfl
    · exact dora_not_group
    · exact carol_not_group
  · rcases hired_member hm with rfl | rfl <;> decide

theorem office_noFields : NoFields office.configuration := by
  intro rules hrules rule hr
  rw [office_rules] at hrules
  cases hrules
  cases hr

theorem hired_staff : hired.directory.contains staff = true := by cbv

/-- Whoever is hired moves from the guests to the staff, and being asserted again changes nothing. -/
theorem office_converges : ∃ w', office.authenticate hired = (.ok (some dora), w') ∧
    dora ∈ w'.directory.membersOf staff ∧ dora ∉ w'.directory.membersOf guests ∧
    ∃ w₃, office.authenticate { hired with directory := w'.directory } = (.ok (some dora), w₃) ∧
      w₃.directory = w'.directory := by
  have pair (p : Except Fault (Option Reference) × World) (hp : p.1 = .ok (some dora)) :
      ∃ w', p = (.ok (some dora), w') := ⟨p.2, Prod.ext hp rfl⟩
  obtain ⟨w', h⟩ := pair _ office_enrols
  have hr : office.vault.retrieve hired.exchange = none := rfl
  obtain ⟨δ, hδ, hset⟩ := authenticate_converges rfl office_noFields (by decide) rfl
    hired_canonical hr h
  have he : some transfer = some δ := Except.ok.inj (office_deltaOf.symm.trans hδ)
  obtain rfl : transfer = δ := Option.some.inj he
  obtain ⟨hm, hagain⟩ := hset hired_apart
  refine ⟨w', h, (hm staff).2 (.inr (.inl ⟨by decide, hired_staff⟩)), fun hg => ?_,
    hagain _ rfl hr rfl⟩
  rcases (hm guests).1 hg with ⟨-, hn⟩ | ⟨hn, -⟩ | hn
  · exact hn (by decide)
  · exact absurd hn (by decide)
  · exact absurd hn (by decide)

end Authenticator

end IdentityBridge
