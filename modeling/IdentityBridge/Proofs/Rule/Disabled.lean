import IdentityBridge.Proofs.Provenance.Overlay
import IdentityBridge.Proofs.Rule.Loading

/-! Disabled rules. A rule is faulty when it is unsafe, when its role pattern cannot be read, or when its
provenance field, as far as it is used, has a value that cannot be read; a general field that all rules
inherit from counts for each of them. No rules are loaded exactly when one that is listed is faulty, and
otherwise each listed name has its rule. Loading that fails for a pattern which is refused without being
malformed does not disable the rules: it is a fault for whoever asks for them. -/

namespace IdentityBridge

open Outcome

namespace Provenance.Field

variable {p : Properties} {owner : String} {inherited : FieldValues} {parent : Option Field}

/-- A field is used when it has a page or a property name, of its own or inherited. -/
def Used (p : Properties) (owner : String) (inherited : FieldValues) : Prop :=
  p.getD (owner ++ "page") inherited.page ≠ "" ∨
    p.getD (owner ++ "propertyName") inherited.propertyName ≠ ""

/-- What is wrong with a field that is used and cannot be read. -/
inductive Broken (p : Properties) (owner : String) (inherited : FieldValues) : Prop where
  | objectNumber (used : Used p owner inherited) (text : String)
      (h : p.get? (owner ++ "objectNumber") = some text) (ne_empty : text ≠ "")
      (unread : Text.Integer.read text = none)
  | valueFormat (used : Used p owner inherited)
      (unread : Fails (Format.read (p.getD (owner ++ "valueFormat") inherited.valueFormat)))
  | valuePattern (used : Used p owner inherited)
      (unread : Fails (Pattern.read (p.getD (owner ++ "valueRegex") inherited.valuePattern)
        p.platform.characters))

/-- The pattern of a field that is used is refused. -/
structure Refuses (p : Properties) (owner : String) (inherited : FieldValues)
    (cause : Pattern.Refusal) : Prop where
  used : Used p owner inherited
  refused : Pattern.read (p.getD (owner ++ "valueRegex") inherited.valuePattern)
    p.platform.characters = .error cause

theorem fails_ofValues {values : FieldValues} {characters : Pattern.CharacterNames} :
    Fails (ofValues values characters) ↔
      Fails (Format.read values.valueFormat) ∨ Fails (Pattern.read values.valuePattern characters) := by
  unfold ofValues
  split
  · next e he => simp [he]
  · next format hf =>
    split
    · next hp => simp [hp]
    · next pattern hp => simp [hf, hp]

/-- What nobody sees to when a field is made of values is that its pattern is refused. -/
theorem refused_of_ofValues {values : FieldValues} {characters : Pattern.CharacterNames}
    {e : ConfigurationError} {fault : Fault} (h : ofValues values characters = .error e)
    (hf : Fault.ofError? e = some fault) :
    ∃ cause, fault = .pattern cause ∧ Pattern.read values.valuePattern characters = .error cause := by
  unfold ofValues at h
  split at h
  · next e' he =>
    cases h
    unfold Format.read at he
    split at he <;> cases he <;> cases hf
  · split at h
    · next cause hp =>
      cases h
      obtain ⟨-, ⟨⟩⟩ := Option.ite_none_left_eq_some.1 hf
      exact ⟨cause, rfl, hp⟩
    · cases h

theorem fails_objectNumber {number : Option Int} {text : Option String} :
    Fails (objectNumber owner number text) ↔
      ∃ t, text = some t ∧ t ≠ "" ∧ Text.Integer.read t = none := by
  cases text with
  | none => simp [objectNumber]
  | some t =>
    by_cases ht : t = ""
    · simp [objectNumber, ht]
    · cases hn : Text.Integer.read t <;> simp [objectNumber, ht, hn]

/-- An object number that is none is seen to. -/
theorem ofError?_of_objectNumber {number : Option Int} {text : Option String} {e : ConfigurationError}
    (h : objectNumber owner number text = .error e) : Fault.ofError? e = none := by
  unfold objectNumber at h
  split at h
  · cases h
  · split at h
    · cases h
    · split at h <;> cases h
      rfl

theorem fails_readValues (hu : Used p owner inherited) : Fails (readValues p owner inherited) ↔
    ∃ text, p.get? (owner ++ "objectNumber") = some text ∧ text ≠ "" ∧
      Text.Integer.read text = none := by
  have hn : ¬ (p.getD (owner ++ "page") inherited.page = "" ∧
      p.getD (owner ++ "propertyName") inherited.propertyName = "") := Decidable.not_and_iff_or_not.2 hu
  rw [readValues, if_neg hn, fails_bind, fails_objectNumber]
  simp

/-- A field cannot be read exactly when it is broken. -/
theorem fails_read :
    Fails (read p owner parent) ↔ Broken p owner ((parent.map (·.values)).getD {}) := by
  rw [read, fails_bind]
  generalize (parent.map (·.values)).getD {} = inherited
  by_cases hu : Used p owner inherited
  · -- the object number is read first: format and pattern are looked at only if it is fine
    cases hv : readValues p owner inherited with
    | error e =>
      obtain ⟨text, ht, hne, hr⟩ := (fails_readValues hu).1 ⟨e, hv⟩
      simpa using Broken.objectNumber hu text ht hne hr
    | ok values =>
      obtain rfl : values = some (overlay p owner inherited) :=
        (readValues_overlay hv).trans (FieldValues.named?_of_named hu)
      have hn : ¬ Fails (readValues p owner inherited) := by simp [hv]
      simp only [not_fails_ok, false_or, Except.ok.injEq, exists_eq_left', fails_bind, fails_ofValues,
        pure_eq, and_false, exists_false, or_false]
      constructor
      · rintro (h | h)
        · exact .valueFormat hu h
        · exact .valuePattern hu h
      · rintro (⟨-, text, ht, hne, hr⟩ | ⟨-, h⟩ | ⟨-, h⟩)
        · exact absurd ((fails_readValues hu).2 ⟨text, ht, hne, hr⟩) hn
        · exact .inl h
        · exact .inr h
  · have hn : readValues p owner inherited = .ok none := if_pos (by simpa [Used] using hu)
    simp only [hn, not_fails_ok, false_or, Except.ok.injEq, exists_eq_left', pure_eq, false_iff]
    rintro (⟨h⟩ | ⟨h⟩ | ⟨h⟩) <;> exact hu h

/-- What nobody sees to when a field is read is that its pattern is refused. -/
theorem refuses_of_read {e : ConfigurationError} {fault : Fault} (h : read p owner parent = .error e)
    (hf : Fault.ofError? e = some fault) :
    ∃ cause, fault = .pattern cause ∧ Refuses p owner ((parent.map (·.values)).getD {}) cause := by
  rw [read, bind_eq_error] at h
  generalize (parent.map (·.values)).getD {} = inherited at h ⊢
  rcases h with h | ⟨values, hv, h⟩
  · dsimp only [readValues] at h
    split at h
    · cases h
    · rcases bind_eq_error.1 h with h | ⟨_, _, ⟨⟩⟩
      rw [ofError?_of_objectNumber h] at hf
      cases hf
  · obtain rfl := readValues_overlay hv
    by_cases hu : (overlay p owner inherited).IsNamed
    · rw [FieldValues.named?_of_named hu] at h
      rcases bind_eq_error.1 h with h | ⟨_, _, ⟨⟩⟩
      obtain ⟨cause, hfault, hp⟩ := refused_of_ofValues h hf
      exact ⟨cause, hfault, hu, hp⟩
    · rw [FieldValues.named?_of_unnamed hu] at h
      cases h

end Provenance.Field

namespace Configuration

open Provenance

variable {c : Configuration} {general : Option Provenance.Field} {name : String} {rule : Rule}
  {rules : List Rule}

theorem rules?_eq_none : c.rules? = none ↔ Fails c.loadRules := toOption_eq_none

/-- What is wrong with the listed rules. -/
inductive Faulty (c : Configuration) : Prop where
  /-- The field that the rules inherit from cannot be read. -/
  | general (name : String) (listed : name ∈ c.ruleNames)
      (broken : Field.Broken c.properties fieldOwner {})
  /-- The field of a rule cannot be read. -/
  | field (name : String) (listed : name ∈ c.ruleNames) (general : Option Provenance.Field)
      (read : c.generalField = .ok general)
      (broken : Field.Broken c.properties (ruleOwner name ++ fieldOwner)
        ((general.map (·.values)).getD {}))
  /-- The role pattern of a rule cannot be read. -/
  | rolePattern (name : String) (listed : name ∈ c.ruleNames)
      (ne_empty : c.properties.getD (ruleOwner name ++ "roleRegex") "" ≠ "")
      (unread : Fails (Pattern.read (c.properties.getD (ruleOwner name ++ "roleRegex") "")
        c.characters))
  /-- A rule has neither a group prefix nor a group suffix. -/
  | isUnsafe (name : String) (listed : name ∈ c.ruleNames)
      (groupPrefix : c.properties.getD (ruleOwner name ++ "groupPrefix") "" = "")
      (groupSuffix : c.properties.getD (ruleOwner name ++ "groupSuffix") "" = "")

/-- A pattern of the listed rules is refused. -/
inductive Refuses (c : Configuration) (cause : Pattern.Refusal) : Prop where
  /-- It is the pattern of the field that the rules inherit from. -/
  | general (name : String) (listed : name ∈ c.ruleNames)
      (refused : Field.Refuses c.properties fieldOwner {} cause)
  /-- It is the pattern of the field of a rule. -/
  | field (name : String) (listed : name ∈ c.ruleNames) (general : Option Provenance.Field)
      (read : c.generalField = .ok general)
      (refused : Field.Refuses c.properties (ruleOwner name ++ fieldOwner)
        ((general.map (·.values)).getD {}) cause)
  /-- It is the role pattern of a rule. -/
  | rolePattern (name : String) (listed : name ∈ c.ruleNames)
      (ne_empty : c.properties.getD (ruleOwner name ++ "roleRegex") "" ≠ "")
      (refused : Pattern.read (c.properties.getD (ruleOwner name ++ "roleRegex") "") c.characters =
        .error cause)

theorem isUnsafe_iff : rule.isUnsafe = true ↔ rule.groupPrefix = "" ∧ rule.groupSuffix = "" := by
  simp [Rule.isUnsafe]

theorem fails_generalField : Fails c.generalField ↔ Field.Broken c.properties fieldOwner {} :=
  Field.fails_read

/-- A rule cannot be loaded when its field or its pattern cannot be read, or when it is unsafe. -/
theorem fails_loadRule : Fails (c.loadRule general name) ↔
    Field.Broken c.properties (ruleOwner name ++ fieldOwner) ((general.map (·.values)).getD {}) ∨
    (c.properties.getD (ruleOwner name ++ "roleRegex") "" ≠ "" ∧
      Fails (Pattern.read (c.properties.getD (ruleOwner name ++ "roleRegex") "") c.characters)) ∨
    (c.properties.getD (ruleOwner name ++ "groupPrefix") "" = "" ∧
      c.properties.getD (ruleOwner name ++ "groupSuffix") "" = "") := by
  rw [loadRule, fails_bind, Field.fails_read]
  cases hf : Field.read c.properties (ruleOwner name ++ fieldOwner) general with
  | error e =>
    have hb := Field.fails_read.1 ⟨e, hf⟩
    exact iff_of_true (.inl hb) (.inl hb)
  | ok field =>
    have hb : ¬ Fails (Field.read c.properties (ruleOwner name ++ fieldOwner) general) := by simp [hf]
    rw [Field.fails_read] at hb
    simp only [hb, false_or, Except.ok.injEq, exists_eq_left']
    cases hv : Rule.ofValues (c.ruleValues name field) with
    | error cause =>
      obtain ⟨hne, hr⟩ := Rule.ofValues_eq_error.1 hv
      exact iff_of_true (fails_error _) (.inl ⟨hne, cause, hr⟩)
    | ok rule =>
      have hp : ¬ ((c.ruleValues name field).rolePattern ≠ "" ∧
          Fails (Pattern.read (c.ruleValues name field).rolePattern c.characters)) := by
        rintro ⟨hne, cause, hr⟩
        cases hv.symm.trans (Rule.ofValues_eq_error.2 ⟨hne, hr⟩)
      have hs : rule.isUnsafe = true ↔ (c.ruleValues name field).groupPrefix = "" ∧
          (c.ruleValues name field).groupSuffix = "" := by
        rw [isUnsafe_iff, Rule.values_of_ofValues hv]
      refine Iff.trans ?_ (hs.trans (or_iff_right hp).symm)
      by_cases hu : rule.isUnsafe = true <;> simp [hu, throw_eq]

/-- No rules are loaded exactly when one of those that are listed is faulty. -/
theorem rules?_eq_none_iff_faulty : c.rules? = none ↔ c.Faulty := by
  rw [rules?_eq_none, loadRules]
  by_cases hn : c.ruleNames = []
  · simp only [if_pos hn, not_fails_ok, false_iff]
    rintro (⟨name, hl⟩ | ⟨name, hl⟩ | ⟨name, hl⟩ | ⟨name, hl⟩) <;> simp [hn] at hl
  · obtain ⟨first, hfirst⟩ := List.exists_mem_of_ne_nil _ hn
    rw [if_neg hn, fails_bind, fails_generalField]
    simp only [fails_mapM, fails_loadRule]
    constructor
    · rintro (hb | ⟨general, hg, name, hl, hb | ⟨hne, hr⟩ | ⟨hp, hs⟩⟩)
      · exact .general first hfirst hb
      · exact .field name hl general hg hb
      · exact .rolePattern name hl hne hr
      · exact .isUnsafe name hl hp hs
    · intro h
      -- a fault of one rule counts where the general field can be read
      cases hg : c.generalField with
      | error e => exact .inl (fails_generalField.1 ⟨e, hg⟩)
      | ok general =>
        refine .inr ⟨general, rfl, ?_⟩
        cases h with
        | general name hl hb => exact absurd (fails_generalField.2 hb) (by simp [hg])
        | field name hl general' hg' hb =>
          cases hg.symm.trans hg'
          exact ⟨name, hl, .inl hb⟩
        | rolePattern name hl hne hr => exact ⟨name, hl, .inr (.inl ⟨hne, hr⟩)⟩
        | isUnsafe name hl hp hs => exact ⟨name, hl, .inr (.inr ⟨hp, hs⟩)⟩

/-- What nobody sees to when a rule is loaded is that a pattern is refused. -/
theorem refuses_of_loadRule {e : ConfigurationError} {fault : Fault}
    (h : c.loadRule general name = .error e) (hf : Fault.ofError? e = some fault) :
    ∃ cause, fault = .pattern cause ∧
      (Field.Refuses c.properties (ruleOwner name ++ fieldOwner) ((general.map (·.values)).getD {})
        cause ∨
      c.properties.getD (ruleOwner name ++ "roleRegex") "" ≠ "" ∧
        Pattern.read (c.properties.getD (ruleOwner name ++ "roleRegex") "") c.characters =
          .error cause) := by
  rw [loadRule, bind_eq_error] at h
  rcases h with h | ⟨field, -, h⟩
  · obtain ⟨cause, hfault, hr⟩ := Field.refuses_of_read h hf
    exact ⟨cause, hfault, .inl hr⟩
  · cases hv : Rule.ofValues (c.ruleValues name field) with
    | error cause =>
      rw [hv] at h
      cases h
      obtain ⟨-, ⟨⟩⟩ := Option.ite_none_left_eq_some.1 hf
      exact ⟨cause, rfl, .inr (Rule.ofValues_eq_error.1 hv)⟩
    | ok rule =>
      simp only [hv] at h
      split at h <;> cases h
      cases hf

/-- The fault of asking for rules is that a pattern of theirs is refused without being malformed. -/
theorem refuses_of_rules {fault : Fault} (h : c.rules = .error fault) :
    ∃ cause, cause ≠ .malformed ∧ fault = .pattern cause ∧ c.Refuses cause := by
  obtain ⟨e, hl, hf⟩ := rules_eq_error.1 h
  suffices hr : ∃ cause, fault = .pattern cause ∧ c.Refuses cause by
    obtain ⟨cause, rfl, hr⟩ := hr
    exact ⟨cause, Fault.ne_of_ofError? hf, rfl, hr⟩
  rw [loadRules] at hl
  split at hl
  · cases hl
  · next hn =>
    obtain ⟨first, hfirst⟩ := List.exists_mem_of_ne_nil _ hn
    rcases bind_eq_error.1 hl with hl | ⟨general, hg, hl⟩
    · obtain ⟨cause, hfault, hr⟩ := Field.refuses_of_read hl hf
      exact ⟨cause, hfault, .general first hfirst hr⟩
    · obtain ⟨name, hm, hl⟩ := exists_of_mapM_error hl
      obtain ⟨cause, hfault, hr | ⟨hne, hr⟩⟩ := refuses_of_loadRule hl hf
      · exact ⟨cause, hfault, .field name hm general hg hr⟩
      · exact ⟨cause, hfault, .rolePattern name hm hne hr⟩

/-- A faulty rule disables the rules, unless asking for them is a fault. -/
theorem rules_of_faulty (h : c.Faulty) (hn : ∀ fault, c.rules ≠ .error fault) : c.rules = .ok none := by
  cases hr : c.rules with
  | error fault => exact absurd hr (hn fault)
  | ok loaded =>
    cases loaded with
    | none => rfl
    | some rules => cases (rules?_eq_none_iff_faulty.2 h).symm.trans (loaded_of_rules hr)

/-- Rules that are not disabled are those of the listed names, in their order, and safe ones. -/
theorem loaded_as_listed (h : c.rules? = some rules) :
    rules.map (·.name) = c.ruleNames ∧
      ∀ rule ∈ rules, ¬ (rule.groupPrefix = "" ∧ rule.groupSuffix = "") := by
  refine ⟨?_, fun rule hr hn => ?_⟩
  · have hl := rules?_eq_some.1 h
    rw [loadRules] at hl
    split at hl
    · next hn =>
      cases hl
      rw [hn]
      rfl
    · obtain ⟨general, -, hl⟩ := bind_eq_ok.1 hl
      refine map_of_mapM (fun name rule hrule => ?_) hl
      obtain ⟨field, -, hv, -⟩ := loadRule_eq_ok hrule
      rw [Rule.values_of_ofValues hv]
      rfl
  · have hs := isUnsafe_of_loaded h hr
    rw [isUnsafe_iff.2 hn] at hs
    cases hs

end Configuration

end IdentityBridge
