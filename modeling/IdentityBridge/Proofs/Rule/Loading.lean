import IdentityBridge.Configuration
import IdentityBridge.Proofs.Outcome

/-! Loaded rules. Rules are loaded all or none, so each rule of a loaded list has been read from the
properties under its name and has passed the test for safety. -/

namespace IdentityBridge

/-- Malformed patterns are seen to. -/
theorem Fault.ne_of_ofError? {e : ConfigurationError} {cause : Pattern.Refusal}
    (h : Fault.ofError? e = some (.pattern cause)) : cause ≠ .malformed := by
  rintro rfl
  unfold Fault.ofError? at h
  split at h <;> simp at h

namespace Rule

theorem none_read {values : RuleValues} (h : values.rolePattern = "") :
    none = if values.rolePattern = "" then none
      else Pattern.read? values.rolePattern values.characters :=
  (if_pos h).symm

theorem isSome_of_ne {values : RuleValues} {pattern : Option Pattern} (h : values.rolePattern = "")
    (hne : values.rolePattern ≠ "") : pattern.isSome = true :=
  absurd h hne

/-- A rule without a pattern is made of any values. -/
def ofAffixes (values : RuleValues) (h : values.rolePattern = "") : Rule :=
  { values with pattern := none, read_pattern := none_read h, isSome_pattern := isSome_of_ne h }

/-- A rule is the one that is read from its values. -/
theorem ofValues_values (r : Rule) : ofValues r.toRuleValues = .ok r := by
  unfold ofValues
  split
  · exact congrArg Except.ok (eq_of_values rfl)
  · next h =>
    split
    · exact congrArg Except.ok (eq_of_values rfl)
    · next hp =>
      have hsome := r.isSome_pattern h
      rw [r.read_pattern, if_neg h, Pattern.read?, hp] at hsome
      cases hsome

theorem values_of_ofValues {values : RuleValues} {r : Rule} (h : ofValues values = .ok r) :
    r.toRuleValues = values := by
  unfold ofValues at h
  split at h
  · cases h
    rfl
  · split at h
    · cases h
      rfl
    · cases h

/-- There is no rule exactly for a pattern that is refused. -/
theorem ofValues_eq_error {values : RuleValues} {cause : Pattern.Refusal} :
    ofValues values = .error cause ↔
      values.rolePattern ≠ "" ∧ Pattern.read values.rolePattern values.characters = .error cause := by
  unfold ofValues
  by_cases h : values.rolePattern = ""
  · simp [h]
  · rw [dif_neg h]
    split
    · next hp => simp [hp]
    · next hp => simp [h, hp]

end Rule

namespace Configuration

variable {c : Configuration} {rules : List Rule} {rule : Rule}

theorem rules?_eq_some : c.rules? = some rules ↔ c.loadRules = .ok rules := Outcome.toOption_eq_some

/-- What loading a rule yields: a rule with the values that the properties give, and a safe one. -/
theorem loadRule_eq_ok {general : Option Provenance.Field} {name : String}
    (h : c.loadRule general name = .ok rule) : ∃ field,
      Provenance.Field.read c.properties (ruleOwner name ++ fieldOwner) general = .ok field ∧
      Rule.ofValues (c.ruleValues name field) = .ok rule ∧ rule.isUnsafe = false := by
  obtain ⟨field, hf, h⟩ := Outcome.bind_eq_ok.1 h
  refine ⟨field, hf, ?_⟩
  cases hv : Rule.ofValues (c.ruleValues name field) with
  | error cause =>
    rw [hv] at h
    cases h
  | ok rule' =>
    simp only [hv] at h
    cases hs : rule'.isUnsafe with
    | true =>
      rw [hs] at h
      cases h
    | false =>
      rw [hs] at h
      cases h
      exact ⟨rfl, hs⟩

/-- Each loaded rule comes from a listed name and inherits from the general field. -/
theorem exists_loadRule (h : c.rules? = some rules) (hr : rule ∈ rules) :
    ∃ general, c.generalField = .ok general ∧
      ∃ name ∈ c.ruleNames, c.loadRule general name = .ok rule := by
  have h := rules?_eq_some.1 h
  unfold loadRules at h
  split at h
  · cases h
    cases hr
  · obtain ⟨general, hg, h⟩ := Outcome.bind_eq_ok.1 h
    exact ⟨general, hg, Outcome.exists_of_mem_mapM h hr⟩

theorem isUnsafe_of_loaded (h : c.rules? = some rules) (hr : rule ∈ rules) :
    rule.isUnsafe = false := by
  obtain ⟨_, -, _, -, hl⟩ := exists_loadRule h hr
  obtain ⟨_, -, -, hs⟩ := loadRule_eq_ok hl
  exact hs

/-! ### Rules in force -/

theorem rules_eq_some : c.rules = .ok (some rules) ↔ c.loadRules = .ok rules := by
  unfold Configuration.rules
  cases c.loadRules with
  | ok rules' => simp
  | error e =>
    simp only [reduceCtorEq, iff_false]
    split <;> nofun

/-- Loaded rules are in force. -/
theorem rules_of_loaded (h : c.rules? = some rules) : c.rules = .ok (some rules) :=
  rules_eq_some.2 (rules?_eq_some.1 h)

theorem loaded_of_rules (h : c.rules = .ok (some rules)) : c.rules? = some rules :=
  rules?_eq_some.2 (rules_eq_some.1 h)

/-- Rules are disabled for an error that somebody sees to. -/
theorem rules_eq_none :
    c.rules = .ok none ↔ ∃ e, c.loadRules = .error e ∧ Fault.ofError? e = none := by
  unfold Configuration.rules
  cases c.loadRules with
  | ok rules' => simp
  | error e => cases h : Fault.ofError? e <;> simp [h]

theorem rules_eq_error {fault : Fault} :
    c.rules = .error fault ↔ ∃ e, c.loadRules = .error e ∧ Fault.ofError? e = some fault := by
  unfold Configuration.rules
  cases c.loadRules with
  | ok rules' => simp
  | error e => cases h : Fault.ofError? e <;> simp [h]

/-! ### Rules of given values -/

/-- A rule is loaded when the properties give its values and it is safe. -/
theorem loadRule_of_values (rule : Rule) {name : String} {general : Option Provenance.Field}
    (hf : Provenance.Field.read c.properties (ruleOwner name ++ fieldOwner) general = .ok rule.field)
    (hv : c.ruleValues name rule.field = rule.toRuleValues) :
    c.loadRule general name = if rule.isUnsafe then .error (.unsafeRule name) else .ok rule := by
  have hr : Rule.ofValues (c.ruleValues name rule.field) = .ok rule := by
    rw [hv, Rule.ofValues_values]
  rw [loadRule, hf, Outcome.ok_bind]
  simp only [hr]
  rfl

/-- A rule without provenance field, where there is none to inherit from. -/
theorem loadRule_of_fieldless (rule : Rule) {name : String}
    (hpage : c.properties.getD (ruleOwner name ++ fieldOwner ++ "page") "" = "")
    (hproperty : c.properties.getD (ruleOwner name ++ fieldOwner ++ "propertyName") "" = "")
    (hfield : rule.field = none) (hv : c.ruleValues name none = rule.toRuleValues) :
    c.loadRule none name = if rule.isUnsafe then .error (.unsafeRule name) else .ok rule := by
  have hf := Provenance.Field.read_eq_none hpage hproperty
  exact loadRule_of_values rule (by rw [hf, hfield]) (by rw [hfield, hv])

theorem rules?_of_values {name : String} {general : Option Provenance.Field}
    (hn : c.ruleNames = [name]) (hg : c.generalField = .ok general)
    (hf : Provenance.Field.read c.properties (ruleOwner name ++ fieldOwner) general = .ok rule.field)
    (hv : c.ruleValues name rule.field = rule.toRuleValues) (hs : rule.isUnsafe = false) :
    c.rules? = some [rule] := by
  simp [rules?, loadRules, Except.toOption, hn, hg, loadRule_of_values rule hf hv, hs]

/-- Such a rule without provenance field, which is listed alone. -/
theorem rules?_of_lone {name : String} (hn : c.ruleNames = [name]) (hg : c.generalField = .ok none)
    (hpage : c.properties.getD (ruleOwner name ++ fieldOwner ++ "page") "" = "")
    (hproperty : c.properties.getD (ruleOwner name ++ fieldOwner ++ "propertyName") "" = "")
    (hfield : rule.field = none) (hv : c.ruleValues name none = rule.toRuleValues)
    (hs : rule.isUnsafe = false) : c.rules? = some [rule] := by
  simp [rules?, loadRules, Except.toOption, hn, hg,
    loadRule_of_fieldless rule hpage hproperty hfield hv, hs]

end Configuration

end IdentityBridge
