import Mathlib
import IdentityBridge.Proofs.Confinement
import IdentityBridge.Proofs.Entitlement.Recorded
import IdentityBridge.Proofs.Provenance.Field
import IdentityBridge.Proofs.Revocation
import IdentityBridge.Proofs.Session.Logout

/-! Synchronizations that are given up because the groups of the user cannot be told. Nobody is returned
or remembered then, no listener hears of anybody and no membership is pushed. What has been done before
stays: the profile of the user, and the records of derived groups, though these groups are not created. -/

namespace IdentityBridge.Authenticator

open Directory Entitlement

variable {x : Authenticator} {a : Assertion} {user : Reference} {d : Directory} {w : World}
  {rules : List Rule}

theorem synchronizeGroups_of_unknown (hr : x.configuration.rules? = some rules) (hne : rules ≠ [])
    (hq : Outcome.Fails (d.groups user)) :
    (x.synchronizeGroups a user d).1 ≠ .ok true ∧
      OnlyRecords x.configuration a rules d (x.synchronizeGroups a user d).2 := by
  unfold synchronizeGroups
  rcases hδ : Entitlement.delta x.configuration a user d with fault | ⟨told, d'⟩
  · exact ⟨nofun, .refl _ a rules d⟩
  · obtain ⟨hn, hrec⟩ := delta_of_unknown_groups hr hne (fun _ ho => groups_fails ho hq) hδ
    obtain rfl : told = none := hn
    exact ⟨nofun, hrec⟩

/-- A page is left alone, or it is recorded on, or it is the profile. -/
theorem synchronizeUser_of_unknown (hr : x.configuration.rules? = some rules) (hne : rules ≠ [])
    (hq : Outcome.Fails (d.groups user)) :
    (x.synchronizeUser a user d).1 ≠ .ok true ∧
      ∀ g, g ≠ user → (x.synchronizeUser a user d).2.pages.find? g = d.pages.find? g ∨
        (∃ roles, a.roles = .ok (some roles) ∧ RecordsOn x.configuration rules roles g) ∧
          d.contains g = true ∧ (d.page g).Revises ((x.synchronizeUser a user d).2.page g) := by
  unfold synchronizeUser
  cases x.assertedFacts a with
  | error fault => exact ⟨nofun, fun g _ => .inl rfl⟩
  | ok facts =>
    have hp := ensureProfile_confined x user facts d
    dsimp only
    generalize x.ensureProfile user facts d = r at hp ⊢
    obtain ⟨done, d₀⟩ := r
    have hother {g : Reference} (hg : g ≠ user) : g ∉ [user] := mt List.mem_singleton.1 hg
    cases done with
    | false => exact ⟨nofun, fun g hg => .inl (hp.find? (hother hg))⟩
    | true =>
      obtain ⟨hn, hrec⟩ := synchronizeGroups_of_unknown (a := a) hr hne (groups_fails hp.outages hq)
      refine ⟨hn, fun g hg => ?_⟩
      rw [← hp.find? (hother hg), ← hp.page g (hother hg), ← hp.contains g (hother hg)]
      exact hrec g

/-- What an authentication with nobody remembered comes to where groups cannot be told. -/
theorem settle_of_unknown (hr : x.configuration.rules? = some rules) (hne : rules ≠ [])
    (hv : x.vault.retrieve w.exchange = none) (hq : ∀ user, Outcome.Fails (w.directory.groups user)) :
    (∀ u, (x.settle a w).1 ≠ .ok (some u)) ∧
    (x.settle a w).2.exchange = w.exchange ∧ (x.settle a w).2.heard = w.heard ∧
    ∀ g, (x.settle a w).2.directory.pages.find? g ≠ w.directory.pages.find? g →
      x.assertedUser a = .ok (some g) ∨
      (∃ roles, a.roles = .ok (some roles) ∧ RecordsOn x.configuration rules roles g) ∧
        w.directory.contains g = true ∧
        (w.directory.page g).Revises ((x.settle a w).2.directory.page g) := by
  rw [settle_eq, hv]
  have hm := callsFor_move x a none
  generalize x.move a none = move at hm ⊢
  cases hm with
  | fail => exact ⟨nofun, rfl, rfl, fun g hg => absurd rfl hg⟩
  | pass => exact ⟨nofun, rfl, rfl, fun g hg => absurd rfl hg⟩
  | enrol user names =>
    obtain ⟨hnot, hpages⟩ := synchronizeUser_of_unknown (a := a) hr hne (hq user)
    obtain ⟨hnobody, he⟩ := enrol_of_not_synchronized hnot
    simp only [Move.perform, he]
    refine ⟨hnobody, trivial, trivial, fun g hg => ?_⟩
    by_cases hu : g = user
    · subst hu
      exact .inl (assertedUser_eq_some.2 names)
    · exact .inr ((hpages g hu).resolve_left hg)

/-- Where there are rules, nobody is remembered and groups cannot be told, an authentication returns no
user, remembers none and announces none: the exchange stays as it is, but for the logout of a request to
log out. No page is created or changed but the profile of the asserted user, and the pages on which the
rules of the asserted roles record the groups that they may create. Of these no more than values are
changed, and only of pages that are there. -/
theorem unknown_groups_abort (hr : x.configuration.rules? = some rules) (hne : rules ≠ [])
    (hv : x.vault.retrieve w.exchange = none) (hq : ∀ user, Outcome.Fails (w.directory.groups user)) :
    (∀ u, (x.authenticate w).1 ≠ .ok (some u)) ∧
    ((x.authenticate w).2.exchange = w.exchange ∨
      (x.authenticate w).2.exchange = (x.logOut (x.assertion w.exchange.request) w).exchange) ∧
    (x.authenticate w).2.heard = w.heard ∧
    ∀ g, (x.authenticate w).2.directory.pages.find? g ≠ w.directory.pages.find? g →
      x.assertedUser (x.assertion w.exchange.request) = .ok (some g) ∨
      (∃ roles, (x.assertion w.exchange.request).roles = .ok (some roles) ∧
        RecordsOn x.configuration rules roles g) ∧
        w.directory.contains g = true ∧
        (w.directory.page g).Revises ((x.authenticate w).2.directory.page g) := by
  obtain ⟨hnobody, hexchange, hheard, hpages⟩ :=
    settle_of_unknown (a := x.assertion w.exchange.request) hr hne hv hq
  obtain ⟨hd, hh⟩ := authenticate_snd x w
  refine ⟨fun u hu => ?_, ?_, hh.trans hheard, ?_⟩
  · rw [authenticate_fst] at hu
    obtain ⟨_, -, hu⟩ := Outcome.bind_eq_ok.1 hu
    exact hnobody u hu
  · rcases hl : x.isLogout w.exchange.request.path with fault | _ | _
    · left
      simp only [authenticate, hl, hexchange]
    · left
      simp only [authenticate, hl, hexchange]
    · right
      rw [exchange_authenticate hl, exchange_logOut]
  · rw [hd]
    exact hpages

/-! ### An example -/

def ledger : Reference := .inSpace "xwiki" "XWiki" "Ledger"

def ledgerPage (teams : String) : Page :=
  Page.add { reference := ledger } "Notes" (.ofList [("teams", teams)])

/-- Whoever has a team role belongs to the group of the team, and the ledger has the teams. -/
def clerk : Authenticator where
  configuration := .ofSettings {
    properties := .ofList [
      ("authentication.trusted.dynamicRole.configurations", "team"),
      ("authentication.trusted.dynamicRole.configuration.team.rolePrefix", "team-"),
      ("authentication.trusted.dynamicRole.configuration.team.groupPrefix", "Team"),
      ("authentication.trusted.dynamicRole.configuration.team.addGroupToField.page", "Ledger"),
      ("authentication.trusted.dynamicRole.configuration.team.addGroupToField.propertyName", "teams")]
    logoutPage := some "/bye" }
  assertion _ := {
    uid := .ok (some "Dora")
    name := .ok (some "Dora")
    property := fun _ => .ok none
    roles := .ok (some ["team-green"])
    logoutUrl := fun _ => none }
  vault := .session

/-- The ledger is empty, and nobody can tell who is in which group. -/
def closed : World where
  directory := {
    (Directory.empty.put (ledgerPage "") "").put { reference := dora } "" with
    outages := { groupQuery := true } }
  exchange := { request := {}, session := some {} }

def ledgerField : Provenance.Field := .plain "Ledger" "teams"

/-- The rule for teams, which records them in the ledger. -/
def ledgerRule : Rule := { teamRule with field := some ledgerField }

theorem clerk_names : clerk.configuration.ruleNames = ["team"] := by cbv

theorem clerk_general : clerk.configuration.generalField = .ok none := by cbv

theorem clerk_field : Provenance.Field.read clerk.configuration.properties
    (Configuration.ruleOwner "team" ++ Configuration.fieldOwner) none = .ok (some ledgerField) := by
  refine Provenance.Field.read_of_readValues rfl ?_
  simp only [Configuration.fieldOwner, team_owner, String.reduceAppend, Provenance.Field.readValues]
  cbv

theorem clerk_values (field : Option Provenance.Field) :
    clerk.configuration.ruleValues "team" field =
      { name := "team", rolePrefix := "team-", groupPrefix := "Team", field } := by
  simp only [Configuration.ruleValues, team_owner, String.reduceAppend]
  cbv

theorem clerk_load : clerk.configuration.rules? = some [ledgerRule] :=
  Configuration.rules?_of_values clerk_names clerk_general clerk_field (clerk_values _) (by decide)

theorem closed_fails (user : Reference) : Outcome.Fails (closed.directory.groups user) :=
  ⟨.groupQueryFailed, rfl⟩

theorem clerk_asserted :
    clerk.assertedUser (clerk.assertion closed.exchange.request) = .ok (some dora) := by cbv

theorem ledger_page : pageOf clerk.configuration ledgerField = ledger := rfl

theorem clerk_aborts :
    clerk.configuration.rules? = some [ledgerRule] ∧ clerk.vault.retrieve closed.exchange = none ∧
    (∀ user, Outcome.Fails (closed.directory.groups user)) ∧
    (∀ u, (clerk.authenticate closed).1 ≠ .ok (some u)) ∧
    ∀ g, (clerk.authenticate closed).2.directory.pages.find? g ≠ closed.directory.pages.find? g →
      g = dora ∨ g = ledger := by
  obtain ⟨hnobody, -, -, hpages⟩ :=
    unknown_groups_abort (w := closed) clerk_load (List.cons_ne_nil _ _) rfl closed_fails
  refine ⟨clerk_load, rfl, closed_fails, hnobody, fun g hg => ?_⟩
  rcases hpages g hg with hu | ⟨⟨roles, -, role, -, rule, field, hrule, -, hfield, -, hpage⟩, -, -⟩
  · cases clerk_asserted.symm.trans hu
    exact .inl rfl
  · have hr : rule = ledgerRule := List.mem_singleton.1 (List.mem_of_find?_eq_some hrule)
    subst hr
    cases hfield
    exact .inr (hpage.trans ledger_page)

/-! ### Records of groups that are not created -/

/-- What the batch of the clerk holds in the end. -/
def copied : Provenance.Batch where
  mainWiki := "xwiki"
  defaultSpace := "XWiki"
  pages := .ofList
    [("xwiki:Ledger", { ledgerPage "XWiki.Teamgreen=team-green" with isNew := false })]
  changed := ["xwiki:Ledger"]

theorem clerk_copies : addRole clerk.configuration [ledgerRule] closed.directory
    ({}, blankBatch clerk.configuration) "team-green" = .ok ({ creates := [green] }, copied) := rfl

theorem clerk_static :
    static clerk.configuration (clerk.assertion closed.exchange.request) = .ok {} := by cbv

theorem clerk_delta : Entitlement.delta clerk.configuration (clerk.assertion closed.exchange.request)
    dora closed.directory = .ok (none, copied.save closed.directory) := by
  have hsort : Text.sortSet ["team-green"] = ["team-green"] := by cbv
  have hadd : addRoles clerk.configuration [ledgerRule] closed.directory ["team-green"] {} =
      .ok ({ creates := [green] }, copied) := by
    rw [addRoles, hsort, List.foldlM_cons]
    exact congrArg (· >>= pure) clerk_copies
  have hgroups : (copied.save closed.directory).groups dora = .error .groupQueryFailed := by
    rw [Directory.groups, outages_save]
    rfl
  have hroles : (clerk.assertion closed.exchange.request).roles = .ok (some ["team-green"]) := rfl
  rw [Entitlement.delta, clerk_static, Outcome.ok_bind, Configuration.rules_of_loaded clerk_load]
  simp only [hroles, Outcome.ok_bind, hadd, hgroups, Outcome.pure_eq]

theorem clerk_facts :
    clerk.assertedFacts (clerk.assertion closed.exchange.request) = .ok .empty := by cbv

theorem clerk_directory :
    (clerk.authenticate closed).2.directory = copied.save closed.directory := by
  have hprofile : clerk.ensureProfile dora .empty closed.directory = (true, closed.directory) := rfl
  rw [(authenticate_snd _ _).1, settle_fresh rfl clerk_asserted, directory_enrol, synchronizeUser,
    clerk_facts]
  simp only [hprofile, synchronizeGroups, clerk_delta]

theorem ledger_recorded :
    (copied.save closed.directory).pages.find? ledger ≠ closed.directory.pages.find? ledger := by
  have hbefore : closed.directory.pages.find? ledger = some { ledgerPage "" with isNew := false } := by
    cbv
  have hafter : (copied.save closed.directory).pages.find? ledger =
      some { ledgerPage "XWiki.Teamgreen=team-green" with isNew := false } := by
    cbv
  rw [hbefore, hafter]
  decide

/-- The profile need not be the only page that changes: a group that the user would have been put into
is recorded, though it is not created. -/
theorem not_only_profile :
    ¬ ∀ (x : Authenticator) (w : World) (rules : List Rule), x.configuration.rules? = some rules →
      rules ≠ [] → x.vault.retrieve w.exchange = none →
      w.directory.outages = { groupQuery := true } →
      ∀ g, x.assertedUser (x.assertion w.exchange.request) ≠ .ok (some g) →
        (x.authenticate w).2.directory.pages.find? g = w.directory.pages.find? g := by
  intro h
  have hledger : clerk.assertedUser (clerk.assertion closed.exchange.request) ≠ .ok (some ledger) := by
    rw [clerk_asserted]
    decide
  have hs := h clerk closed [ledgerRule] clerk_load (List.cons_ne_nil _ _) rfl rfl ledger hledger
  rw [clerk_directory] at hs
  exact ledger_recorded hs

end IdentityBridge.Authenticator
