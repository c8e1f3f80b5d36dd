import IdentityBridge.Proofs.Entitlement.Exact

/-! Telling a delta. Whether there is a delta depends on the roles, which may be missing, on the names to
derive from them, which may not come out, and on the groups that the user is in. Where a delta is told of
rules and roles, it is exact; and it is told where nothing of this is amiss. -/

namespace IdentityBridge.Entitlement

variable {c : Configuration} {a : Assertion} {rules : List Rule} {roles : List String}
  {d d' : Directory} {user : Reference} {δ δ' : Delta}

/-- What telling a delta comes to where it does not fail. -/
inductive Tells (c : Configuration) (a : Assertion) (user : Reference) (d : Directory) :
    Option Delta × Directory → Prop where
  /-- Without rules the static mappings say it all. -/
  | fixed (core : Delta) (hs : static c a = .ok core) (hr : c.rules = .ok none ∨ c.rules? = some []) :
      Tells c a user d (some core, d)
  /-- The roles cannot be told. -/
  | roleless (hr : a.roles = .ok none) : Tells c a user d (none, d)
  /-- The groups of the user cannot be told. -/
  | groupless (core δ : Delta) (rules : List Rule) (roles : List String) (batch : Provenance.Batch)
      (hs : static c a = .ok core) (hr : c.rules? = some rules) (hroles : a.roles = .ok (some roles))
      (ha : addRoles c rules d roles core = .ok (δ, batch)) :
      Tells c a user d (none, batch.save d)
  | derived (core δ : Delta) (first : Rule) (rest : List Rule) (roles : List String)
      (batch : Provenance.Batch) (current : List Reference) (hs : static c a = .ok core)
      (hr : c.rules? = some (first :: rest)) (hroles : a.roles = .ok (some roles))
      (ha : addRoles c (first :: rest) d roles core = .ok (δ, batch))
      (hc : (batch.save d).groups user = .ok current) :
      Tells c a user d (some (dropLost c (first :: rest) current δ), batch.save d)

theorem delta_tells {r : Option Delta × Directory} (h : delta c a user d = .ok r) :
    Tells c a user d r := by
  obtain ⟨core, hs, h⟩ := Outcome.bind_eq_ok.1 h
  obtain ⟨loaded, hr, h⟩ := Outcome.bind_eq_ok.1 h
  cases loaded with
  | none =>
    cases h
    exact .fixed core hs (.inl hr)
  | some rules =>
    have hr := Configuration.loaded_of_rules hr
    cases rules with
    | nil =>
      cases h
      exact .fixed core hs (.inr hr)
    | cons first rest =>
      obtain ⟨told, hroles, h⟩ := Outcome.bind_eq_ok.1 h
      cases told with
      | none =>
        cases h
        exact .roleless hroles
      | some roles =>
        obtain ⟨⟨δ, batch⟩, ha, h⟩ := Outcome.bind_eq_ok.1 h
        dsimp only at h
        cases hc : (batch.save d).groups user with
        | error e =>
          rw [hc] at h
          cases h
          exact .groupless core δ _ roles batch hs hr hroles ha
        | ok current =>
          rw [hc] at h
          cases h
          exact .derived core δ first rest roles batch current hs hr hroles ha hc

/-- What a role adds to the delta and to the records. -/
inductive AddsRole (c : Configuration) (rules : List Rule) (d : Directory)
    (s : Delta × Provenance.Batch) (role : String) : Delta × Provenance.Batch → Prop where
  /-- No rule applies to the role. -/
  | unruled (hr : ruleFor? rules role = none) : AddsRole c rules d s role s
  /-- The group is withheld. -/
  | withheld (rule : Rule) (group : Reference) (hr : ruleFor? rules role = some rule)
      (hg : derivedGroup c rule role = .ok group)
      (hn : s.1.addDynamic? group rule.autoCreate = none) : AddsRole c rules d s role s
  | joined (rule : Rule) (group : Reference) (δ : Delta) (hr : ruleFor? rules role = some rule)
      (hg : derivedGroup c rule role = .ok group)
      (hδ : s.1.addDynamic? group rule.autoCreate = some δ)
      (hf : rule.field = none ∨ rule.autoCreate = false) : AddsRole c rules d s role (δ, s.2)
  /-- The group may be created, which is recorded. -/
  | recorded (rule : Rule) (group : Reference) (δ : Delta) (field : Provenance.Field)
      (hr : ruleFor? rules role = some rule) (hg : derivedGroup c rule role = .ok group)
      (hδ : s.1.addDynamic? group rule.autoCreate = some δ) (hf : rule.field = some field)
      (hc : rule.autoCreate = true) : AddsRole c rules d s role (δ, s.2.add d field group role)

theorem addRole_adds {role : String} {s s' : Delta × Provenance.Batch}
    (h : addRole c rules d s role = .ok s') : AddsRole c rules d s role s' := by
  unfold addRole at h
  cases hr : ruleFor? rules role with
  | none =>
    rw [hr] at h
    cases h
    exact .unruled hr
  | some rule =>
    simp only [hr] at h
    obtain ⟨group, hg, h⟩ := Outcome.bind_eq_ok.1 h
    cases hδ : s.1.addDynamic? group rule.autoCreate with
    | none =>
      rw [hδ] at h
      cases h
      exact .withheld rule group hr hg hδ
    | some δ =>
      cases hf : rule.field with
      | none =>
        simp only [hδ, hf] at h
        cases h
        exact .joined rule group δ hr hg hδ (.inl hf)
      | some field =>
        simp only [hδ, hf] at h
        cases h
        cases hc : rule.autoCreate with
        | false => exact .joined rule group δ hr hg hδ (.inr hc)
        | true => exact .recorded rule group δ field hr hg hδ hf hc

theorem derivable_of_addRole {role : String} {s s' : Delta × Provenance.Batch}
    (h : addRole c rules d s role = .ok s') : Derivable c rules role := by
  intro rule hr
  cases addRole_adds h with
  | unruled hr' => cases hr.symm.trans hr'
  | withheld _ group hr' hg | joined _ group _ hr' hg | recorded _ group _ _ hr' hg =>
    cases hr.symm.trans hr'
    exact ⟨group, hg⟩

theorem records_of_addRoles {decided : Reference → Option Bool}
    (h : δ.Records decided fun _ _ => False) {batch : Provenance.Batch}
    (ha : addRoles c rules d roles δ = .ok (δ', batch)) :
    δ'.Records decided (Derives c rules roles) := by
  have hd : ∀ role ∈ roles, Derivable c rules role := by
    intro role hr
    obtain ⟨_, _, hs⟩ := Outcome.exists_of_mem_foldlM ha (Text.mem_sortSet.2 hr)
    exact derivable_of_addRole hs
  obtain ⟨_, _, ha', hrec⟩ := addRoles_records (d := d) h hd
  cases ha.symm.trans ha'
  exact hrec

/-- A delta that is told of rules and roles is exact. -/
theorem exact_of_delta (hrules : c.rules? = some rules) (hne : rules ≠ [])
    (hroles : a.roles = .ok (some roles)) (h : delta c a user d = .ok (some δ, d')) :
    Exact c rules roles (d'.groupsOf user) δ := by
  cases delta_tells h with
  | fixed _ _ hr =>
    rcases hr with hr | hr
    · cases hr.symm.trans (Configuration.rules_of_loaded hrules)
    · exact absurd (Option.some.inj (hrules.symm.trans hr)) hne
  | derived core δ₀ first rest roles' batch current hs hr hroles' ha hc =>
    cases hr.symm.trans hrules
    cases hroles'.symm.trans hroles
    obtain ⟨core', hs', hrec⟩ := static_records (c := c) hroles
    cases hs.symm.trans hs'
    have hcurrent : current = (batch.save d).groupsOf user := by
      rcases Directory.groups_cases (batch.save d) user with hg | ⟨⟨e, hg⟩, -⟩
      · exact Except.ok.inj (hc.symm.trans hg)
      · cases hc.symm.trans hg
    rw [← hcurrent]
    exact dropLost_exact (records_of_addRoles hrec ha) current

/-- Where roles are told and names can be derived from them, a delta is told. -/
theorem exists_delta (user : Reference) (ho : d.outages = {}) (hrules : c.rules? = some rules)
    (hroles : a.roles = .ok (some roles)) (hd : ∀ role ∈ roles, Derivable c rules role) :
    ∃ δ d', delta c a user d = .ok (some δ, d') := by
  obtain ⟨core, hs, hrec⟩ := static_records (c := c) hroles
  have hforce := Configuration.rules_of_loaded hrules
  cases rules with
  | nil =>
    refine ⟨core, d, ?_⟩
    rw [delta, hs, Outcome.ok_bind, hforce]
    rfl
  | cons first rest =>
    obtain ⟨δ, batch, ha, -⟩ := addRoles_records (d := d) hrec hd
    have hc : (batch.save d).groups user = .ok ((batch.save d).groupsOf user) :=
      Directory.groups_of_outages ((outages_save batch d).trans ho)
    refine ⟨dropLost c (first :: rest) ((batch.save d).groupsOf user) δ, batch.save d, ?_⟩
    rw [delta, hs, Outcome.ok_bind, hforce]
    simp only [hroles, Outcome.ok_bind, ha, hc, Outcome.pure_eq]

end IdentityBridge.Entitlement
