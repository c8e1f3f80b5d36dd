import IdentityBridge.Proofs.Confinement
import IdentityBridge.Proofs.Membership.Departure
import IdentityBridge.Proofs.Rule.Recognition

/-! Revocation. Whoever comes without a role that once brought a group is taken out of the group: the rule
recognises the group that it derived, the delta asks to leave it, and the push finds the entry. Each of
these has its condition: the affixes of the rule are plain, no other role and no mapping brings the group
as well, and the entries of the page are written as joining writes them. -/

namespace IdentityBridge

namespace Authenticator

open Directory Entitlement

variable {x : Authenticator} {a : Assertion} {w : World} {d : Directory} {user group : Reference}

/-! ### Authentications that synchronize -/

/-- The authentication is one that synchronizes a user, and it succeeds in this. -/
structure Synchronizes (x : Authenticator) (w : World) (user : Reference) : Prop where
  move : x.move (x.assertion w.exchange.request) (x.vault.retrieve w.exchange) = .enrol user ∨
    x.move (x.assertion w.exchange.request) (x.vault.retrieve w.exchange) = .replace user
  done : (x.synchronizeUser (x.assertion w.exchange.request) user w.directory).1 = .ok true

theorem Synchronizes.names (h : x.Synchronizes w user) :
    x.Names (x.assertion w.exchange.request) user := by
  have hm := callsFor_move x (x.assertion w.exchange.request) (x.vault.retrieve w.exchange)
  have hmove := h.move
  generalize x.vault.retrieve w.exchange = remembered at hm hmove
  generalize x.move (x.assertion w.exchange.request) remembered = move at hm hmove
  rcases hmove with rfl | rfl
  · cases hm with
    | enrol _ names => exact names
  · cases hm with
    | replace _ _ names => exact names

theorem Synchronizes.synchronizeUser (h : x.Synchronizes w user) :
    x.synchronizeUser (x.assertion w.exchange.request) user w.directory =
      (.ok true, (x.authenticate w).2.directory) := by
  refine Prod.ext h.done ?_
  rw [(authenticate_snd x w).1, settle_eq]
  rcases h.move with he | he <;> rw [he]
  · exact (directory_enrol x _ user w).symm
  · exact (directory_enrol x _ user (x.forget w)).symm

/-- Without an outage a user is synchronized where facts and a delta can be told. -/
theorem synchronizeUser_done (ho : d.outages = {}) {facts : Fields}
    (hfacts : x.assertedFacts a = .ok facts)
    (hδ : ∀ d₀ : Directory, d₀.outages = {} →
      ∃ δ d₁, Entitlement.delta x.configuration a user d₀ = .ok (some δ, d₁)) :
    (x.synchronizeUser a user d).1 = .ok true := by
  obtain ⟨d₀, he, hp⟩ := ensureProfile_profiled x user facts ho
  obtain ⟨δ, d₁, hδ⟩ := hδ d₀ (hp.outages.trans ho)
  simp only [synchronizeUser, hfacts, he, synchronizeGroups, hδ]
  split <;> rfl

/-- When a user is synchronized, a group that a plain rule derives from some role does not list the user
afterwards, unless the asserted roles still derive it or a static mapping grants it. -/
theorem lost_role_revoked (hs : x.accounts.shards = none) (hf : NoFields x.configuration)
    (hwiki : x.configuration.mainWiki ≠ "") (ho : w.directory.outages = {})
    (hd : w.directory.Usual) {rules : List Rule} (hrules : x.configuration.rules? = some rules)
    {rule : Rule} (hr : rule ∈ rules) (hp : rule.Plain) {role : String}
    (hrole : Reference.Dotted role.toList)
    (hg : derivedGroup x.configuration rule role = .ok group) (hsync : x.Synchronizes w user)
    {roles : List String} (hroles : (x.assertion w.exchange.request).roles = .ok (some roles))
    (hderives : ∀ create, ¬ Derives x.configuration rules roles group create)
    (hgranted : ¬ Granted x.configuration roles group) :
    user ∉ (x.authenticate w).2.directory.membersOf group := by
  have hw : user.wiki ≠ "" := by rwa [hsync.names.wiki]
  obtain ⟨facts, d₀, f, core, test, δ, -, hprofile, -, hall, hδ, -, hdir⟩ :=
    synchronizeUser_ok hs hf ho hsync.synchronizeUser
  have ho₀ : d₀.outages = {} := hprofile.outages.trans ho
  have htold := hall d₀ ho₀
  rw [hδ] at htold
  have hexact := exact_of_delta hrules (List.ne_nil_of_mem hr) hroles htold
  have hj : group ∉ δ.joins := by
    intro hm
    rcases ((hexact.joins group).1 hm).1 with hm | ⟨hm, -⟩
    · exact hgranted hm
    · exact hderives _ hm
  have hc : group ∉ δ.creates := fun hm => hderives _ ((hexact.creates group).1 hm).1
  -- The rule knows the group as its own, so the delta asks to leave it if the user is in it.
  have hl : group ∈ d₀.groupsOf user → group ∈ δ.leaves := fun hm =>
    (hexact.leaves group).2 (.inr ⟨hm, hgranted, hj, hc, rule, hr, hp.matchesGroup hrole hg⟩)
  rw [← hdir]
  exact not_mem_push hw ho₀ (hd.of_entries hprofile.memberEntries) hl hj hc groupComment

/-! ### A club -/

def teamRule : Rule where
  name := "team"
  rolePrefix := "team-"
  groupPrefix := "Team"
  pattern := none
  read_pattern := rfl
  isSome_pattern := by simp

theorem teams_load : teams.rules? = some [teamRule] :=
  Configuration.rules?_of_lone teams_names teams_general team_page team_property rfl team_values
    (by decide)

theorem teamRule_plain : teamRule.Plain := by
  refine ⟨.inl rfl, by decide, by decide, fun front back h => ?_, ⟨by decide, by decide⟩⟩
  have hm : ':' ∈ teamRule.groupPrefix.toList := by simp [h]
  exact absurd hm (by decide)

def club : Authenticator where
  configuration := teams
  assertion _ := { member with uid := .ok (some "bob"), name := .ok (some "bob") }
  vault := .session

def green : Reference := .inSpace "xwiki" "XWiki" "Teamgreen"

/-- A user is in the group of a team whose role is asserted no more. -/
def dropped : World where
  directory := Directory.empty.put (groupPage green "XWiki.bob") ""
  exchange := { request := {}, session := some {} }

theorem dropped_roster : dropped.directory.membersOf green = [bob] := by cbv

theorem dropped_usual : dropped.directory.Usual :=
  (canonical_empty.put_groupPage (m := bob) (by decide) (by cbv) _).usual

theorem club_derivable (role : String) : Derivable teams [teamRule] role :=
  derivable_of_replacement (by simp [teamRule]) role

theorem club_synchronizes : club.Synchronizes dropped bob := by
  have hfacts : club.assertedFacts (club.assertion dropped.exchange.request) = .ok .empty := by cbv
  refine ⟨.inl (by cbv), synchronizeUser_done rfl hfacts fun d₀ ho => ?_⟩
  exact exists_delta bob ho teams_load rfl fun role _ => club_derivable role

theorem green_of_role : derivedGroup teams teamRule "team-green" = .ok green := by cbv

/-- None of the asserted roles brings the group. -/
theorem club_groups : ["team-red", "admin", "team-blue"].map
      (fun role => (derivedGroup teams teamRule role).toOption) =
    [some (.inSpace "xwiki" "XWiki" "Teamred"), some (.inSpace "xwiki" "XWiki" "Team"),
      some (.inSpace "xwiki" "XWiki" "Teamblue")] := by
  cbv

theorem green_underived (create : Bool) :
    ¬ Derives teams [teamRule] ["team-red", "admin", "team-blue"] green create := by
  rintro ⟨role, hr, rule, hf, hg, -⟩
  have hrule : rule = teamRule := List.mem_singleton.1 (List.mem_of_find?_eq_some hf)
  subst hrule
  have hm := List.mem_map_of_mem (f := fun role => (derivedGroup teams teamRule role).toOption) hr
  rw [club_groups, hg] at hm
  exact absurd hm (by decide)

theorem green_unmapped : teams.mappedGroups.find? green = none := by cbv

/-- Whoever is on a team no longer is taken out of its group. -/
theorem dropped_leaves : bob ∈ dropped.directory.membersOf green ∧
    bob ∉ (club.authenticate dropped).2.directory.membersOf green := by
  have hgranted : ¬ Granted teams ["team-red", "admin", "team-blue"] green := by
    rintro ⟨mapped, hm, -⟩
    rw [green_unmapped] at hm
    cases hm
  have hfields : NoFields teams := by
    intro rules hrules rule hr
    cases teams_load.symm.trans hrules
    rw [List.mem_singleton.1 hr]
    rfl
  have hbefore : bob ∈ dropped.directory.membersOf green := by
    rw [dropped_roster]
    exact List.mem_singleton.2 rfl
  refine ⟨hbefore, ?_⟩
  exact lost_role_revoked rfl hfields (by decide) rfl dropped_usual teams_load
    (List.mem_singleton.2 rfl) teamRule_plain ⟨by decide, by decide⟩ green_of_role club_synchronizes
    rfl green_underived hgranted

end Authenticator

end IdentityBridge
