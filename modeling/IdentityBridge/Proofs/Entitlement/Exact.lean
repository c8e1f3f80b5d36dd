import IdentityBridge.Entitlement
import IdentityBridge.Proofs.Delta
import IdentityBridge.Proofs.Membership.Step
import IdentityBridge.Proofs.Rule.Loading

/-! The delta of an authentication in closed form. The static mappings decide by the roles of the user,
the rules derive groups from them, and the groups to leave are those withheld and those that look
derived without being so. The order of mappings, roles and groups does not matter. -/

namespace IdentityBridge.Entitlement

variable {c : Configuration} {a : Assertion} {rules : List Rule} {roles : List String} {d : Directory}

/-- A static mapping of the group lists one of the roles. -/
def Granted (c : Configuration) (roles : List String) (g : Reference) : Prop :=
  ∃ mapped, c.mappedGroups.find? g = some mapped ∧ ∃ role ∈ mapped, role ∈ roles

/-- There is a static mapping of the group, and it lists none of the roles. -/
def Withheld (c : Configuration) (roles : List String) (g : Reference) : Prop :=
  ∃ mapped, c.mappedGroups.find? g = some mapped ∧ ∀ role ∈ mapped, role ∉ roles

/-- The first rule for one of the roles derives the group from it, and may create it or not. -/
def Derives (c : Configuration) (rules : List Rule) (roles : List String) (g : Reference)
    (create : Bool) : Prop :=
  ∃ role ∈ roles, ∃ rule, ruleFor? rules role = some rule ∧
    derivedGroup c rule role = .ok g ∧ rule.autoCreate = create

/-- A delta holds exactly the groups that the user, now in some groups, is to join and to leave. -/
structure Exact (c : Configuration) (rules : List Rule) (roles : List String)
    (current : List Reference) (δ : Delta) : Prop where
  creates (g : Reference) :
    g ∈ δ.creates ↔ Derives c rules roles g true ∧ ¬ Withheld c roles g
  joins (g : Reference) :
    g ∈ δ.joins ↔ (Granted c roles g ∨ Derives c rules roles g false ∧ ¬ Withheld c roles g) ∧
      g ∉ δ.creates
  leaves (g : Reference) :
    g ∈ δ.leaves ↔ Withheld c roles g ∨ g ∈ current ∧ ¬ Granted c roles g ∧ g ∉ δ.joins ∧
      g ∉ δ.creates ∧ ∃ rule ∈ rules, rule.matchesGroup g c.userSpace = true

theorem not_granted_of_withheld {g : Reference} (h : Withheld c roles g) : ¬ Granted c roles g := by
  obtain ⟨mapped, hm, hn⟩ := h
  rintro ⟨mapped', hm', role, hr, hh⟩
  cases hm.symm.trans hm'
  exact hn role hr hh

theorem Exact.separate {current : List Reference} {δ : Delta} (h : Exact c rules roles current δ) :
    δ.Separate := by
  intro g
  refine ⟨fun ⟨hj, hc⟩ => ((h.joins g).1 hj).2 hc, fun ⟨hj, hl⟩ => ?_, fun ⟨hc, hl⟩ => ?_⟩
  · rcases (h.leaves g).1 hl with hw | ⟨-, -, hn, -⟩
    · rcases ((h.joins g).1 hj).1 with hg | ⟨-, hn⟩
      · exact not_granted_of_withheld hw hg
      · exact hn hw
    · exact hn hj
  · rcases (h.leaves g).1 hl with hw | ⟨-, -, -, hn, -⟩
    · exact ((h.creates g).1 hc).2 hw
    · exact hn hc

/-! ### Static mappings -/

/-- What the static mappings decide on a group, if it is mapped. -/
def decision (c : Configuration) (roles : List String) (g : Reference) : Option Bool :=
  (c.mappedGroups.find? g).map fun mapped => mapped.any roles.contains

theorem decision_eq_true {g : Reference} : decision c roles g = some true ↔ Granted c roles g := by
  simp [decision, Granted]

theorem decision_eq_false {g : Reference} :
    decision c roles g = some false ↔ Withheld c roles g := by
  simp [decision, Withheld]

theorem holdsAny_of_roles {told : Option (List String)} (hr : a.roles = .ok told)
    (mapped : List String) : a.holdsAny mapped = .ok (mapped.any (told.getD []).contains) := by
  induction mapped with
  | nil => rfl
  | cons role rest ih =>
    have hh : a.holds role = .ok ((told.getD []).contains role) := by
      rw [Assertion.holds, hr]
      cases told <;> rfl
    rw [Assertion.holdsAny, hh, ih, List.any_cons]
    cases (told.getD []).contains role <;> rfl

/-- Where no group is mapped twice, all decisions are recorded. -/
theorem records_foldl {δ : Delta} {decided : Reference → Option Bool}
    (h : δ.Records decided fun _ _ => False) (holds : List String → Bool)
    (entries : List (Reference × List String)) (hn : (entries.map Prod.fst).Nodup) :
    (entries.foldl (fun δ (g, mapped) => δ.addStatic g (holds mapped)) δ).Records
      (fun g => ((Table.findIn g entries).map holds).or (decided g)) fun _ _ => False := by
  induction entries generalizing δ decided with
  | nil => exact h
  | cons entry rest ih =>
    obtain ⟨group, mapped⟩ := entry
    obtain ⟨hg, hr⟩ := List.nodup_cons.1 hn
    have hnone : Table.findIn group rest = none := Table.findIn_eq_none.2 hg
    have hd : (fun g => ((Table.findIn g ((group, mapped) :: rest)).map holds).or (decided g)) =
        fun g => ((Table.findIn g rest).map holds).or
          (if g = group then some (holds mapped) else decided g) := by
      funext g
      by_cases he : g = group
      · subst he
        simp [Table.findIn, hnone]
      · simp [Table.findIn, he, Ne.symm he]
    rw [hd]
    exact ih (h.addStatic group (holds mapped)) hr

theorem static_records {told : Option (List String)} (hr : a.roles = .ok told) :
    ∃ δ, static c a = .ok δ ∧ δ.Records (decision c (told.getD [])) fun _ _ => False := by
  let holds (mapped : List String) : Bool := mapped.any (told.getD []).contains
  refine ⟨c.mappedGroups.entries.foldl (fun δ (g, mapped) => δ.addStatic g (holds mapped)) {}, ?_, ?_⟩
  · rw [static]
    simp only [holdsAny_of_roles hr, Outcome.ok_bind]
    exact List.foldlM_pure
  · have h := records_foldl Delta.records_empty holds _ c.mappedGroups.nodup_keys
    simp only [Option.or_none] at h
    exact h

/-! ### Roles -/

theorem derives_append {earlier later : List String} {g : Reference} {create : Bool} :
    Derives c rules (earlier ++ later) g create ↔
      Derives c rules earlier g create ∨ Derives c rules later g create := by
  simp only [Derives, List.mem_append, or_and_right, exists_or]

/-- No group name fails to be derived from a role. -/
def Derivable (c : Configuration) (rules : List Rule) (role : String) : Prop :=
  ∀ rule, ruleFor? rules role = some rule → ∃ g, derivedGroup c rule role = .ok g

theorem addRole_records {δ : Delta} {decided : Reference → Option Bool}
    {derived : Reference → Bool → Prop} (h : δ.Records decided derived) (batch : Provenance.Batch)
    {role : String} (hd : Derivable c rules role) :
    ∃ δ' batch', addRole c rules d (δ, batch) role = .ok (δ', batch') ∧
      δ'.Records decided fun g create => derived g create ∨ Derives c rules [role] g create := by
  cases hr : ruleFor? rules role with
  | none =>
    refine ⟨δ, batch, ?_, h.congr fun g create => ?_⟩
    · simp only [addRole, hr]
    · simp [Derives, hr]
  | some rule =>
    obtain ⟨group, hg⟩ := hd rule hr
    have hrec : ((δ.addDynamic? group rule.autoCreate).getD δ).Records decided
        fun g create => derived g create ∨ Derives c rules [role] g create := by
      apply (h.addDynamic group rule.autoCreate).congr
      intro g create
      simp [Derives, hr, hg, eq_comm]
    simp only [addRole, hr, hg, Outcome.ok_bind, Outcome.pure_eq]
    cases ha : δ.addDynamic? group rule.autoCreate with
    | none =>
      rw [ha] at hrec
      exact ⟨δ, batch, rfl, hrec⟩
    | some δ' =>
      rw [ha] at hrec
      cases rule.field with
      | none => exact ⟨δ', batch, rfl, hrec⟩
      | some field => exact ⟨δ', _, rfl, hrec⟩

theorem addRole_foldlM {decided : Reference → Option Bool} (roles : List String)
    (hd : ∀ role ∈ roles, Derivable c rules role) {earlier : List String} {δ : Delta}
    (h : δ.Records decided (Derives c rules earlier)) (batch : Provenance.Batch) :
    ∃ δ' batch', roles.foldlM (addRole c rules d) (δ, batch) = .ok (δ', batch') ∧
      δ'.Records decided (Derives c rules (earlier ++ roles)) := by
  induction roles generalizing earlier δ batch with
  | nil => exact ⟨δ, batch, rfl, by rwa [List.append_nil]⟩
  | cons role rest ih =>
    obtain ⟨δ₁, batch₁, h₁, hr₁⟩ := addRole_records (d := d) h batch (hd role List.mem_cons_self)
    have hr₁ := hr₁.congr fun _ _ => derives_append.symm
    obtain ⟨δ₂, batch₂, h₂, hr₂⟩ := ih (fun r hr => hd r (List.mem_cons_of_mem _ hr)) hr₁ batch₁
    rw [List.foldlM_cons, h₁, Outcome.ok_bind, List.append_cons]
    exact ⟨δ₂, batch₂, h₂, hr₂⟩

theorem addRoles_records {decided : Reference → Option Bool} {δ : Delta}
    (h : δ.Records decided fun _ _ => False) (hd : ∀ role ∈ roles, Derivable c rules role) :
    ∃ δ' batch, addRoles c rules d roles δ = .ok (δ', batch) ∧
      δ'.Records decided (Derives c rules roles) := by
  have h0 : δ.Records decided (Derives c rules []) := h.congr fun _ _ => by simp [Derives]
  obtain ⟨δ', batch, he, hrec⟩ := addRole_foldlM (d := d) (Text.sortSet roles)
    (fun role hr => hd role (Text.mem_sortSet.1 hr)) h0
    { mainWiki := c.mainWiki, defaultSpace := c.userSpace }
  refine ⟨δ', batch, he, hrec.congr fun g create => ?_⟩
  simp [Derives]

/-! ### The delta -/

/-- Some rule recognizes the group. -/
def looksDerived (c : Configuration) (rules : List Rule) (g : Reference) : Bool :=
  rules.any (·.matchesGroup g c.userSpace)

/-- Only the set to leave changes: the groups now belonged to that are lost are added to it. -/
theorem dropLost_eq (c : Configuration) (rules : List Rule) (current : List Reference) (δ : Delta) :
    ∃ leaves, dropLost c rules current δ = { δ with leaves } ∧
      ∀ g, g ∈ leaves ↔ g ∈ δ.leaves ∨ g ∈ current ∧ δ.Lost (looksDerived c rules) g := by
  obtain ⟨leaves, he, hl⟩ :=
    Delta.removeDynamic_foldl (looksDerived c rules) (δ.removalCandidates current) δ
  refine ⟨leaves, he, fun g => ?_⟩
  have hcandidate : g ∈ δ.removalCandidates current ∧ δ.Lost (looksDerived c rules) g ↔
      g ∈ current ∧ δ.Lost (looksDerived c rules) g := by
    apply and_congr_left
    intro hlost
    simp only [Delta.removalCandidates, List.mem_filter, Bool.and_eq_true, decide_eq_true_eq]
    exact ⟨And.left, fun hg => ⟨hg, hlost.2.2, hlost.2.1⟩⟩
  rw [hl g, hcandidate]

theorem dropLost_exact {δ : Delta}
    (h : δ.Records (decision c roles) (Derives c rules roles)) (current : List Reference) :
    Exact c rules roles current (dropLost c rules current δ) := by
  obtain ⟨leaves, he, hl⟩ := dropLost_eq c rules current δ
  rw [he]
  refine ⟨fun g => ?_, fun g => ?_, fun g => ?_⟩
  · rw [h.creates, ← decision_eq_false]
  · rw [h.joins, decision_eq_true, ← decision_eq_false]
  · have hlost : δ.Lost (looksDerived c rules) g ↔ ¬ Granted c roles g ∧ g ∉ δ.joins ∧
        g ∉ δ.creates ∧ ∃ rule ∈ rules, rule.matchesGroup g c.userSpace = true := by
      rw [Delta.Lost, looksDerived, List.any_eq_true, h.granted, decision_eq_true, Delta.mem_added,
        not_or]
      exact ⟨fun ⟨hm, hg, hj, hc⟩ => ⟨hg, hj, hc, hm⟩, fun ⟨hg, hj, hc, hm⟩ => ⟨hm, hg, hj, hc⟩⟩
    rw [hl, h.leaves, decision_eq_false, hlost]

/-- Recording derived groups does not end an outage, nor begin one. -/
theorem outages_save (batch : Provenance.Batch) (d : Directory) :
    (batch.save d).outages = d.outages := by
  unfold Provenance.Batch.save
  induction batch.changed generalizing d with
  | nil => rfl
  | cons name rest ih =>
    rw [List.foldl_cons, ih]
    cases batch.pages.find? name with
    | none => rfl
    | some page =>
      simp only [Directory.save, Directory.reach]
      split <;> rfl

/-- A fault of the rules is one of the delta. -/
theorem delta_of_fault {fault : Fault} {core : Delta} (hs : static c a = .ok core)
    (hr : c.rules = .error fault) : delta c a user d = .error fault := by
  rw [delta, hs, Outcome.ok_bind, hr]
  rfl

/-- Where every group name can be derived, the delta is exact. Without rules it is what the static
mappings say. With rules the roles must be told, and the groups of the user must be known once the
derived groups have been recorded; what the user is to leave depends on them. A fault of the rules is
one of the delta. -/
theorem delta_exact (user : Reference) {told : Option (List String)} (hr : a.roles = .ok told)
    (hd : ∀ rules, c.rules? = some rules → ∀ role ∈ told.getD [], Derivable c rules role) :
    (c.rules = .ok none ∨ c.rules? = some [] →
      ∃ δ, delta c a user d = .ok (some δ, d) ∧ δ.Separate ∧ δ.creates = [] ∧
        (∀ g, g ∈ δ.joins ↔ Granted c (told.getD []) g) ∧
        (∀ g, g ∈ δ.leaves ↔ Withheld c (told.getD []) g)) ∧
    (∀ rules, c.rules? = some rules → rules ≠ [] →
      (told = none → delta c a user d = .ok (none, d)) ∧
      (∀ roles, told = some roles → ∃ batch : Provenance.Batch,
        (∀ e, (batch.save d).groups user = .error e →
          delta c a user d = .ok (none, batch.save d)) ∧
        (∀ current, (batch.save d).groups user = .ok current →
          ∃ δ, delta c a user d = .ok (some δ, batch.save d) ∧ δ.Separate ∧
            Exact c rules roles current δ))) ∧
    (∀ fault, c.rules = .error fault → delta c a user d = .error fault) := by
  obtain ⟨δ, hs, hrec⟩ := static_records (c := c) hr
  refine ⟨?_, ?_, ?_⟩
  · intro hrules
    have hδ : delta c a user d = .ok (some δ, d) := by
      have hrules := hrules.imp_right Configuration.rules_of_loaded
      rw [delta, hs, Outcome.ok_bind]
      rcases hrules with hrules | hrules <;> rw [hrules] <;> rfl
    have hex : Exact c [] (told.getD []) [] δ :=
      dropLost_exact (hrec.congr fun g create => by simp [Derives, ruleFor?]) []
    have hnone : ∀ g, g ∉ δ.creates := fun g hg => ((hrec.creates g).1 hg).1
    refine ⟨δ, hδ, hex.separate, List.eq_nil_iff_forall_not_mem.2 hnone, fun g => ?_, fun g => ?_⟩
    · rw [hrec.joins, decision_eq_true]
      simp [hnone]
    · rw [hrec.leaves, decision_eq_false]
  · intro rules hrules hne
    obtain ⟨first, rest, rfl⟩ := List.exists_cons_of_ne_nil hne
    have hforce := Configuration.rules_of_loaded hrules
    refine ⟨?_, ?_⟩
    · rintro rfl
      rw [delta, hs, Outcome.ok_bind, hforce]
      simp only [hr, Outcome.ok_bind, Outcome.pure_eq]
    · rintro roles rfl
      obtain ⟨δ', batch, ha, hrec'⟩ := addRoles_records (d := d) hrec (hd _ hrules)
      have hadd : addRoles c (first :: rest) d roles δ = .ok (δ', batch) := ha
      refine ⟨batch, fun e he => ?_, fun current hc => ?_⟩
      · rw [delta, hs, Outcome.ok_bind, hforce]
        simp only [hr, Outcome.ok_bind, hadd, he, Outcome.pure_eq]
      · have hex := dropLost_exact hrec' current
        refine ⟨_, ?_, hex.separate, hex⟩
        rw [delta, hs, Outcome.ok_bind, hforce]
        simp only [hr, Outcome.ok_bind, hadd, hc, Outcome.pure_eq]
  · exact fun fault hfault => delta_of_fault hs hfault

/-! ### An example -/

/-- Whoever has a team role belongs to the group of the team; the red team takes only leads. -/
def teams : Configuration :=
  .ofSettings { properties := .ofList [
    ("authentication.trusted.groupsMapping", "Admins=admin|Teamred=lead"),
    ("authentication.trusted.dynamicRole.configurations", "team"),
    ("authentication.trusted.dynamicRole.configuration.team.rolePrefix", "team-"),
    ("authentication.trusted.dynamicRole.configuration.team.groupPrefix", "Team")] }

def member : Assertion where
  uid := .ok none
  name := .ok none
  property := fun _ => .ok none
  roles := .ok (some ["team-red", "admin", "team-blue"])
  logoutUrl := fun _ => none

def bob : Reference := .inSpace "xwiki" "XWiki" "bob"

theorem teams_names : teams.ruleNames = ["team"] := by cbv

theorem teams_general : teams.generalField = .ok none := by cbv

theorem team_owner : Configuration.ruleOwner "team" = "dynamicRole.configuration.team." := by rfl

theorem team_values : teams.ruleValues "team" none =
    { name := "team", rolePrefix := "team-", groupPrefix := "Team" } := by
  simp only [Configuration.ruleValues, team_owner, String.reduceAppend]
  cbv

theorem team_page : teams.properties.getD
    (Configuration.ruleOwner "team" ++ Configuration.fieldOwner ++ "page") "" = "" := by
  simp only [Configuration.fieldOwner, team_owner, String.reduceAppend]
  cbv

theorem team_property : teams.properties.getD
    (Configuration.ruleOwner "team" ++ Configuration.fieldOwner ++ "propertyName") "" = "" := by
  simp only [Configuration.fieldOwner, team_owner, String.reduceAppend]
  cbv

theorem teams_rules : ∃ rule, teams.rules? = some [rule] ∧ rule.replacement = "" :=
  ⟨.ofAffixes { name := "team", rolePrefix := "team-", groupPrefix := "Team" } rfl,
    Configuration.rules?_of_lone teams_names teams_general team_page team_property rfl team_values
      (by decide), rfl⟩

/-- Swapping affixes always succeeds. -/
theorem derivable_of_replacement (h : ∀ rule ∈ rules, rule.replacement = "") (role : String) :
    Derivable c rules role := by
  intro rule hr
  have hm : rule ∈ rules := List.mem_of_find?_eq_some hr
  exact ⟨_, by rw [derivedGroup, Rule.groupName_of_affixed (.inr (h rule hm))]⟩

theorem teams_exact : ∃ rule δ batch, teams.rules? = some [rule] ∧
    delta teams member bob .empty = .ok (some δ, Provenance.Batch.save batch .empty) ∧ δ.Separate ∧
    Exact teams [rule] ["team-red", "admin", "team-blue"]
      ((Provenance.Batch.save batch .empty).groupsOf bob) δ := by
  obtain ⟨rule, hrules, hr⟩ := teams_rules
  have hd : ∀ rules, teams.rules? = some rules → ∀ role ∈ ["team-red", "admin", "team-blue"],
      Derivable teams rules role := by
    intro rules hrules' role _
    cases hrules.symm.trans hrules'
    exact derivable_of_replacement (by simpa using hr) role
  have h := delta_exact (c := teams) (a := member) (d := .empty) bob rfl hd
  obtain ⟨batch, -, hb⟩ := (h.2.1 [rule] hrules (List.cons_ne_nil _ _)).2 _ rfl
  obtain ⟨δ, hδ, hsep, hex⟩ := hb _ (Directory.groups_of_outages (outages_save batch .empty))
  exact ⟨rule, δ, batch, hrules, hδ, hsep, hex⟩

end IdentityBridge.Entitlement
