import IdentityBridge.Assembly
import IdentityBridge.Proofs.Entitlement.Mapping
import IdentityBridge.Proofs.Escape
import IdentityBridge.Proofs.Properties.Without
import IdentityBridge.Proofs.Rule.Disabled
import IdentityBridge.Proofs.Session.Move

/-! Disabled rules count as no rules. One faulty rule disables all that are listed, and nothing else:
every authentication comes out as if the list of rules were missing from the settings. A pattern that is
refused without being malformed disables nothing. Whoever asks for the rules meets a fault then, and who is
not remembered does not get in. -/

namespace IdentityBridge

/-- Configurations that say the same to an authenticator. -/
structure Configuration.Alike (c c' : Configuration) : Prop where
  mainWiki : c'.mainWiki = c.mainWiki
  userSpace : c'.userSpace = c.userSpace
  trustsVault : c'.trustsVault = c.trustsVault
  keepsOnMissing : c'.keepsOnMissing = c.keepsOnMissing
  caseStyle : c'.caseStyle = c.caseStyle
  nameReplacements : c'.nameReplacements = c.nameReplacements
  factMappings : c'.factMappings = c.factMappings
  logoutPattern : c'.logoutPattern = c.logoutPattern
  characters : c'.characters = c.characters
  delta (a : Assertion) (user : Reference) (d : Directory) :
    Entitlement.delta c' a user d = Entitlement.delta c a user d

/-! ### Authenticators of such configurations -/

namespace Authenticator

variable {x : Authenticator} {c : Configuration} {a : Assertion} {w : World}

/-- The same authenticator under another configuration. -/
def under (x : Authenticator) (c : Configuration) : Authenticator := { x with configuration := c }

theorem resolve_under (h : x.configuration.Alike c) : c.resolve = x.configuration.resolve := by
  funext text
  rw [Configuration.resolve, h.mainWiki, h.userSpace, Configuration.resolve]

theorem assertedUser_under (h : x.configuration.Alike c) :
    (x.under c).assertedUser a = x.assertedUser a := by
  simp only [assertedUser, profileOf, under, h.mainWiki, h.userSpace, h.caseStyle, h.nameReplacements]

theorem move_under (h : x.configuration.Alike c) : (x.under c).move a = x.move a := by
  funext remembered
  cases remembered with
  | none => simp only [move, assertedUser_under h]
  | some principal =>
    simp only [move, assertedUser_under h]
    simp only [under, h.trustsVault, h.keepsOnMissing, resolve_under h]

theorem synchronizeUser_under (h : x.configuration.Alike c) (user : Reference) (d : Directory) :
    (x.under c).synchronizeUser a user d = x.synchronizeUser a user d := by
  have hfacts : (x.under c).assertedFacts a = x.assertedFacts a := by
    simp only [assertedFacts, under, h.factMappings]
  have hgroups (d : Directory) :
      (x.under c).synchronizeGroups a user d = x.synchronizeGroups a user d := by
    simp only [synchronizeGroups, under, h.delta]
  have hprofile (facts : Fields) :
      (x.under c).ensureProfile user facts d = x.ensureProfile user facts d := rfl
  simp only [synchronizeUser, hfacts, hprofile, hgroups]

theorem enrol_under (h : x.configuration.Alike c) (user : Reference) :
    (x.under c).enrol a user w = x.enrol a user w := by
  simp only [enrol, synchronizeUser_under h]
  rfl

theorem settle_under (h : x.configuration.Alike c) : (x.under c).settle a w = x.settle a w := by
  rw [settle_eq, settle_eq, move_under h]
  change (x.move a (x.vault.retrieve w.exchange)).perform (x.under c) a w = _
  cases x.move a (x.vault.retrieve w.exchange) with
  | answer result => rfl
  | forget => rfl
  | enrol user => exact enrol_under h user
  | replace user => exact enrol_under h user

/-- Under a configuration that says the same, requests are authenticated in the same way. -/
theorem authenticate_under (h : x.configuration.Alike c) :
    (x.under c).authenticate = x.authenticate := by
  have hl (path : String) : (x.under c).isLogout path = x.isLogout path := by
    simp only [isLogout, under, h.logoutPattern, h.characters]
  funext w
  have ha : (x.under c).assertion = x.assertion := rfl
  simp only [authenticate, ha, settle_under h, hl]
  rfl

end Authenticator

/-! ### Rules that cannot be asked for -/

namespace Authenticator

variable {x : Authenticator} {a : Assertion} {w : World} {fault : Fault}

theorem synchronizeUser_of_fault (hr : x.configuration.rules = .error fault) (user : Reference)
    (d : Directory) : (x.synchronizeUser a user d).1 ≠ .ok true := by
  have hgroups (d : Directory) : (x.synchronizeGroups a user d).1 ≠ .ok true := by
    have hδ : ∃ fault', Entitlement.delta x.configuration a user d = .error fault' := by
      cases hs : Entitlement.static x.configuration a with
      | error fault' => exact ⟨fault', by rw [Entitlement.delta, hs, Outcome.error_bind]⟩
      | ok core => exact ⟨fault, Entitlement.delta_of_fault hs hr⟩
    obtain ⟨fault', hδ⟩ := hδ
    simp [synchronizeGroups, hδ]
  unfold synchronizeUser
  cases x.assertedFacts a with
  | error fault' => simp
  | ok facts =>
    dsimp only
    rcases x.ensureProfile user facts d with ⟨_ | _, d'⟩
    · simp
    · exact hgroups d'

/-- Whoever is not remembered does not get in then. -/
theorem settle_of_fault (hr : x.configuration.rules = .error fault)
    (hv : x.vault.retrieve w.exchange = none) :
    (∀ u, (x.settle a w).1 ≠ .ok (some u)) ∧ (x.settle a w).2.exchange = w.exchange :=
  settle_of_not_synchronized hv fun user => synchronizeUser_of_fault hr user w.directory

end Authenticator

/-! ### Settings without rules -/

/-- The name of the list of rules. -/
def Configuration.rulesProperty : String := "dynamicRole.configurations"

/-- The settings without the list of rules. -/
def Settings.withoutRules (s : Settings) : Settings := s.without Configuration.rulesProperty

namespace Configuration

variable {s : Settings}

theorem properties_withoutRules (s : Settings) : (ofSettings s.withoutRules).properties =
    (ofSettings s).properties.without rulesProperty := rfl

theorem get?_withoutRules (s : Settings) {name : String} (h : name ≠ rulesProperty) :
    (ofSettings s.withoutRules).properties.get? name = (ofSettings s).properties.get? name := by
  rw [properties_withoutRules, Properties.get?_without_of_ne h]

theorem rules?_withoutRules (s : Settings) : (ofSettings s.withoutRules).rules? = some [] := by
  have hg : (ofSettings s.withoutRules).properties.get? rulesProperty = none := by
    rw [properties_withoutRules, Properties.get?_without, if_pos rfl]
  have hn : (ofSettings s.withoutRules).ruleNames = [] := by
    rw [ruleNames, Properties.list?, ← rulesProperty, hg]
    rfl
  rw [rules?, loadRules, if_pos hn]
  rfl

theorem mappedGroups_withoutRules (s : Settings) :
    (ofSettings s.withoutRules).mappedGroups = (ofSettings s).mappedGroups := by
  have hm : (ofSettings s.withoutRules).groupMappings = (ofSettings s).groupMappings := by
    simp only [groupMappings, Properties.groups?, Properties.list?,
      get?_withoutRules s (show "groupsMapping" ≠ rulesProperty by decide)]
  rw [mappedGroups, hm]
  rfl

/-- Where no rules are in force, nothing depends on their list. -/
theorem alike_withoutRules (hn : (ofSettings s).rules = .ok none ∨ (ofSettings s).rules? = some []) :
    (ofSettings s).Alike (ofSettings s.withoutRules) where
  mainWiki := rfl
  userSpace := rfl
  trustsVault := by
    simp only [trustsVault, Properties.flag,
      get?_withoutRules s (show "isPersistenceStoreTrusted" ≠ rulesProperty by decide)]
  keepsOnMissing := by
    have h : "isPersistenceStoreTrustedOnMissingAuthentication" ≠ rulesProperty := by decide
    simp only [keepsOnMissing, Properties.flag, get?_withoutRules s h]
  caseStyle := by
    simp only [caseStyle, get?_withoutRules s (show "userProfileCase" ≠ rulesProperty by decide)]
  nameReplacements := by
    simp only [nameReplacements, Properties.map?, Properties.list?,
      get?_withoutRules s (show "userProfileReplacements" ≠ rulesProperty by decide)]
  factMappings := by
    simp only [factMappings, Properties.map?, Properties.list?,
      get?_withoutRules s (show "propertiesMapping" ≠ rulesProperty by decide)]
  logoutPattern := rfl
  characters := rfl
  delta a user d := by
    -- both deltas are what the static mapping says
    rw [Entitlement.delta_of_no_rules hn, Entitlement.delta_of_no_rules (.inr (rules?_withoutRules s)),
      Entitlement.static, mappedGroups_withoutRules, Entitlement.static]

end Configuration

namespace Assembly

open IdentityBridge.Configuration

variable {s : Settings}

theorem source_withoutRules (s : Settings) :
    source (ofSettings s.withoutRules) = source (ofSettings s) := by
  simp only [source, adapterHint, Properties.getD,
    get?_withoutRules s (show "adapterHint" ≠ rulesProperty by decide)]

theorem vault_withoutRules (s : Settings) (now : Crypto.Moment) :
    vault (ofSettings s.withoutRules) now = vault (ofSettings s) now := by
  have hkind : vaultKind (ofSettings s.withoutRules) = vaultKind (ofSettings s) := by
    simp only [vaultKind, vaultHint, Properties.getD,
      get?_withoutRules s (show "persistenceStoreHint" ≠ rulesProperty by decide)]
  have hcookie : cookieVault (ofSettings s.withoutRules) now = cookieVault (ofSettings s) now := by
    simp only [cookieVault, vaultTtl,
      get?_withoutRules s (show "persistenceStoreTTL" ≠ rulesProperty by decide)]
    rfl
  rw [vault, hkind, hcookie, vault]

/-- The same components are assembled. -/
theorem authenticator_withoutRules (s : Settings) (now : Crypto.Moment) (listeners : ℕ) :
    authenticator (ofSettings s.withoutRules) now listeners =
      (authenticator (ofSettings s) now listeners).map (·.under (ofSettings s.withoutRules)) := by
  rw [authenticator, source_withoutRules, vault_withoutRules, authenticator]
  cases source (ofSettings s) with
  | error e => rfl
  | ok source =>
    cases vault (ofSettings s) now with
    | error e => rfl
    | ok vault =>
      have hr : rulesProperty ∉ Assertion.Source.propertyNames := by decide
      simp only [Outcome.ok_bind, properties_withoutRules, Assertion.Source.assertion_without hr]
      rfl

/-- Where no rules are in force, authentications come out as without the list of rules. -/
theorem authenticate_withoutRules
    (hn : (ofSettings s).rules = .ok none ∨ (ofSettings s).rules? = some []) (now : Crypto.Moment)
    (listeners : ℕ) :
    (authenticator (ofSettings s.withoutRules) now listeners).map Authenticator.authenticate =
      (authenticator (ofSettings s) now listeners).map Authenticator.authenticate := by
  rw [authenticator_withoutRules]
  cases hx : authenticator (ofSettings s) now listeners with
  | error e => rfl
  | ok x =>
    obtain ⟨-, -, hc, -⟩ := authenticator_eq_ok hx
    have halike : x.configuration.Alike (ofSettings s.withoutRules) := by
      rw [hc]
      exact alike_withoutRules hn
    exact congrArg Except.ok (Authenticator.authenticate_under halike)

/-- Where asking for the rules is no fault, settings with a faulty rule assemble to the same as without the
list of rules: the same error, or authenticators that answer every request alike and leave the same
directory, session and cookies. It is a fault only for a pattern that is refused without being malformed.
It is then one of every delta, and nobody who is not remembered gets in. Rules that are loaded are those of
the listed names, in their order, and each has a group prefix or suffix. -/
theorem faulty_as_no_rules (s : Settings) :
    ((ofSettings s).Faulty → (∀ fault, (ofSettings s).rules ≠ .error fault) → ∀ now listeners,
      (authenticator (ofSettings s.withoutRules) now listeners).map Authenticator.authenticate =
        (authenticator (ofSettings s) now listeners).map Authenticator.authenticate) ∧
    (∀ fault, (ofSettings s).rules = .error fault →
      (∃ cause, cause ≠ .malformed ∧ fault = .pattern cause ∧ (ofSettings s).Refuses cause) ∧
      (∀ a user d core, Entitlement.static (ofSettings s) a = .ok core →
        Entitlement.delta (ofSettings s) a user d = .error fault) ∧
      ∀ x : Authenticator, x.configuration = ofSettings s → ∀ w, x.vault.retrieve w.exchange = none →
        ∀ u, (x.authenticate w).1 ≠ .ok (some u)) ∧
    ∀ rules, (ofSettings s).rules? = some rules →
      rules.map (·.name) = (ofSettings s).ruleNames ∧
        ∀ rule ∈ rules, ¬ (rule.groupPrefix = "" ∧ rule.groupSuffix = "") := by
  refine ⟨fun hf hn now listeners => ?_, fun fault hr => ⟨refuses_of_rules hr, ?_, ?_⟩,
    fun rules hr => loaded_as_listed hr⟩
  · exact authenticate_withoutRules (.inl (rules_of_faulty hf hn)) now listeners
  · exact fun a user d core hs => Entitlement.delta_of_fault hs hr
  · rintro x hx w hv u hu
    rw [← hx] at hr
    rw [Authenticator.authenticate_fst, Outcome.bind_eq_ok] at hu
    obtain ⟨_, -, hu⟩ := hu
    exact (Authenticator.settle_of_fault hr hv).1 u hu

/-! ### Examples -/

/-- Of two rules one names no groups. -/
def mixed : Settings where
  properties := .ofList [
    ("authentication.trusted.groupsMapping", "Admins=admin"),
    ("authentication.trusted.dynamicRole.configurations", "team|all"),
    ("authentication.trusted.dynamicRole.configuration.team.rolePrefix", "team-"),
    ("authentication.trusted.dynamicRole.configuration.team.groupPrefix", "Team"),
    ("authentication.trusted.dynamicRole.configuration.all.rolePrefix", "any-")]

theorem mixed_names : (ofSettings mixed).ruleNames = ["team", "all"] := by cbv

theorem all_owner : ruleOwner "all" = "dynamicRole.configuration.all." := by rfl

theorem mixed_faulty : (ofSettings mixed).Faulty := by
  refine .isUnsafe "all" (by simp [mixed_names]) ?_ ?_
  · simp only [all_owner, String.reduceAppend]
    cbv
  · simp only [all_owner, String.reduceAppend]
    cbv

/-- The rules of the example are read, until one turns out to be unsafe. -/
theorem mixed_rules : (ofSettings mixed).rules = .ok none := by
  have hg : (ofSettings mixed).generalField = .ok none := by cbv
  have hteam : (ofSettings mixed).loadRule none "team" = .ok (.ofAffixes
      { name := "team", rolePrefix := "team-", groupPrefix := "Team" } rfl) := by
    refine loadRule_of_fieldless
      (.ofAffixes { name := "team", rolePrefix := "team-", groupPrefix := "Team" } rfl) ?_ ?_ rfl ?_
    all_goals
      simp only [ruleValues, fieldOwner, Entitlement.team_owner, String.reduceAppend]
      cbv
  have hall : (ofSettings mixed).loadRule none "all" = .error (.unsafeRule "all") := by
    refine loadRule_of_fieldless (.ofAffixes { name := "all", rolePrefix := "any-" } rfl) ?_ ?_ rfl ?_
    all_goals
      simp only [ruleValues, fieldOwner, all_owner, String.reduceAppend]
      cbv
  refine rules_eq_none.2 ⟨.unsafeRule "all", ?_, rfl⟩
  simp only [loadRules, mixed_names, hg, List.mapM_cons, hteam, hall, Outcome.ok_bind, Outcome.error_bind]
  rfl

theorem mixed_disabled : (ofSettings mixed).Faulty ∧
    (∀ fault, (ofSettings mixed).rules ≠ .error fault) ∧
    (∃ x x', authenticator (ofSettings mixed) midnight 0 = .ok x ∧
      authenticator (ofSettings mixed.withoutRules) midnight 0 = .ok x' ∧
      x'.authenticate = x.authenticate) ∧
    ∃ rule, Entitlement.teams.rules? = some [rule] ∧
      [rule].map (·.name) = Entitlement.teams.ruleNames := by
  obtain ⟨rule, hrule, -⟩ := Entitlement.teams_rules
  have hassembled : ∃ x, authenticator (ofSettings mixed) midnight 0 = .ok x := by
    have hs : source (ofSettings mixed) = .ok .headers := by cbv
    have hv : vault (ofSettings mixed) midnight = .ok .session := by cbv
    rw [authenticator, hs, hv]
    exact ⟨_, rfl⟩
  have hn : ∀ fault, (ofSettings mixed).rules ≠ .error fault := by simp [mixed_rules]
  obtain ⟨x, hx⟩ := hassembled
  have heq := (faulty_as_no_rules mixed).1 mixed_faulty hn midnight 0
  rw [hx] at heq
  cases hx' : authenticator (ofSettings mixed.withoutRules) midnight 0 with
  | error e => simp [hx', Except.map] at heq
  | ok x' =>
    rw [hx'] at heq
    exact ⟨mixed_faulty, hn, ⟨x, x', hx, rfl, Except.ok.inj heq⟩, rule, hrule,
      ((faulty_as_no_rules _).2.2 [rule] hrule).1⟩

/-- The role pattern of the rule asks for one repertoire and for another. -/
def torn : Settings where
  properties := .ofList [
    ("authentication.trusted.dynamicRole.configurations", "team"),
    ("authentication.trusted.dynamicRole.configuration.team.roleRegex", "(?a)(?u)team-.*"),
    ("authentication.trusted.dynamicRole.configuration.team.groupPrefix", "Team")]
  logoutPage := some "("

def tornReader : Authenticator where
  configuration := ofSettings torn
  assertion := Assertion.Source.headers.assertion (ofSettings torn).properties
  vault := .session

theorem tornReader_assembled : authenticator (ofSettings torn) midnight 0 = .ok tornReader := by
  have hs : source (ofSettings torn) = .ok .headers := by cbv
  have hv : vault (ofSettings torn) midnight = .ok .session := by cbv
  rw [authenticator, hs, hv]
  rfl

theorem torn_names : (ofSettings torn).ruleNames = ["team"] := by cbv

theorem torn_pattern :
    (ofSettings torn).properties.getD (ruleOwner "team" ++ "roleRegex") "" = "(?a)(?u)team-.*" := by
  simp only [Entitlement.team_owner, String.reduceAppend]
  cbv

theorem torn_refused (characters : Pattern.CharacterNames) :
    Pattern.read "(?a)(?u)team-.*" characters = .error .conflictingRepertoires := by cbv

theorem torn_faulty : (ofSettings torn).Faulty := by
  refine .rolePattern "team" (by simp [torn_names]) ?_ ?_
  · simp [torn_pattern]
  · exact ⟨.conflictingRepertoires, by rw [torn_pattern, torn_refused]⟩

theorem torn_rules : (ofSettings torn).rules = .error (.pattern .conflictingRepertoires) := by
  have hg : (ofSettings torn).generalField = .ok none := by cbv
  have hf : Provenance.Field.read (ofSettings torn).properties (ruleOwner "team" ++ fieldOwner) none =
      .ok none := by
    refine Provenance.Field.read_eq_none ?_ ?_
    all_goals
      simp only [fieldOwner, Entitlement.team_owner, String.reduceAppend]
      cbv
  have hv : Rule.ofValues ((ofSettings torn).ruleValues "team" none) = .error .conflictingRepertoires :=
    Rule.ofValues_eq_error.2 ⟨by simp [ruleValues, torn_pattern],
      (congrArg (Pattern.read · _) torn_pattern).trans (torn_refused _)⟩
  refine rules_eq_error.2 ⟨.invalidRolePattern "team" .conflictingRepertoires, ?_, rfl⟩
  simp only [loadRules, torn_names, hg, List.mapM_cons, loadRule, hf, hv, Outcome.ok_bind]
  rfl

theorem tornReader_reads : tornReader.assertion introduced.exchange.request = {
    uid := .ok (some "alice")
    name := .ok (some "alice")
    property := Assertion.Source.headers.field (ofSettings torn).properties introduced.exchange.request
    roles := .ok (some [])
    logoutUrl := Assertion.Source.logoutUrl (ofSettings torn).properties } :=
  Assertion.Source.assertion_of_plain (by cbv) (by cbv) (by cbv) (by cbv) (by cbv) (by cbv) (by cbv)

/-- The same without the rule. -/
def tornWithout : Authenticator := tornReader.under (ofSettings torn.withoutRules)

theorem tornWithout_assembled :
    authenticator (ofSettings torn.withoutRules) midnight 0 = .ok tornWithout := by
  rw [authenticator_withoutRules, tornReader_assembled]
  rfl

theorem tornReader_keeps : (tornReader.authenticate introduced).2.exchange.session = some {} := by
  have hp : introduced.exchange.request.path = "/" := rfl
  have hl : tornReader.isLogout "/" = .error (.pattern .malformed) := by cbv
  have hv : tornReader.vault.retrieve introduced.exchange = none := rfl
  have hs : (tornReader.settle (tornReader.assertion introduced.exchange.request) introduced).2.exchange =
      introduced.exchange := (Authenticator.settle_of_fault (x := tornReader) torn_rules hv).2
  simp only [Authenticator.authenticate, hp, hl, hs]
  rfl

theorem tornWithout_stores :
    (tornWithout.authenticate introduced).2.exchange.session =
      some { principal := some (Reference.serialize (.inSpace "xwiki" "XWiki" "alice")) } := by
  have ha : tornWithout.assertion introduced.exchange.request =
      tornReader.assertion introduced.exchange.request := rfl
  have hp : introduced.exchange.request.path = "/" := rfl
  have hl : tornWithout.isLogout "/" = .error (.pattern .malformed) := by cbv
  simp only [Authenticator.authenticate, Authenticator.request_settle, hp, hl, ha, tornReader_reads]
  cbv

/-- The rule is faulty for its pattern, and yet it is not as if it were missing: a user who is remembered
without the rule is not remembered with it. -/
theorem torn_not_disabled : (ofSettings torn).Faulty ∧
    authenticator (ofSettings torn) midnight 0 = .ok tornReader ∧
    authenticator (ofSettings torn.withoutRules) midnight 0 = .ok tornWithout ∧
    (tornReader.authenticate introduced).2.exchange.session = some {} ∧
    (tornWithout.authenticate introduced).2.exchange.session =
      some { principal := some (Reference.serialize (.inSpace "xwiki" "XWiki" "alice")) } :=
  ⟨torn_faulty, tornReader_assembled, tornWithout_assembled, tornReader_keeps, tornWithout_stores⟩

end Assembly

end IdentityBridge
