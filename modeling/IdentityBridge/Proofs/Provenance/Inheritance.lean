import Mathlib
import IdentityBridge.Proofs.Provenance.Field
import IdentityBridge.Proofs.Provenance.Overlay
import IdentityBridge.Proofs.Rule.Disabled

/-! Where the values of provenance fields come from. A rule has a field where a page or a property is named
for it, by the rule itself or in general. The values are then taken key by key from what is said for the rule,
from what is said in general, and from the defaults. But what is said in general counts only where it names a
page or a property itself; otherwise the rule inherits the defaults. -/

namespace IdentityBridge

namespace Configuration

open Provenance Provenance.Field

variable {c : Configuration} {rules : List Rule} {rule : Rule}

/-- The field of a rule has the values that lie over those of the general field, if they are named. -/
theorem field_of_loaded (h : c.rules? = some rules) (hr : rule ∈ rules) :
    rule.field.map (·.values) = (overlay c.properties (ruleOwner rule.name ++ fieldOwner)
      ((layered c.properties [fieldOwner]).named?.getD {})).named? := by
  obtain ⟨general, hgeneral, name, -, hload⟩ := exists_loadRule h hr
  obtain ⟨field, hfield, hvalues, -⟩ := loadRule_eq_ok hload
  have hvalues := Rule.values_of_ofValues hvalues
  have hname : rule.name = name := congrArg RuleValues.name hvalues
  have hrule : rule.field = field := congrArg RuleValues.field hvalues
  have hg : general.map (·.values) = (layered c.properties [fieldOwner]).named? :=
    read_overlay hgeneral
  rw [hrule, hname, read_overlay hfield, hg]

/-- What the rule inherits has the page and the property that are said in general, named or not. -/
theorem overlay_inherited (p : Properties) (own : String) (v : FieldValues) :
    (overlay p own (v.named?.getD {})).page = (overlay p own v).page ∧
    (overlay p own (v.named?.getD {})).propertyName = (overlay p own v).propertyName := by
  by_cases hv : v.IsNamed
  · rw [FieldValues.named?_of_named hv]
    exact ⟨rfl, rfl⟩
  · obtain ⟨hpage, hproperty⟩ := FieldValues.not_isNamed.1 hv
    rw [FieldValues.named?_of_unnamed hv]
    simp [overlay, hpage, hproperty]

theorem isSome_field (h : c.rules? = some rules) (hr : rule ∈ rules) : rule.field.isSome = true ↔
    (layered c.properties [ruleOwner rule.name ++ fieldOwner, fieldOwner]).IsNamed := by
  have hfield := congrArg Option.isSome (field_of_loaded h hr)
  obtain ⟨hpage, hproperty⟩ := overlay_inherited c.properties (ruleOwner rule.name ++ fieldOwner)
    (layered c.properties [fieldOwner])
  rw [Option.isSome_map] at hfield
  rw [hfield, FieldValues.isSome_named?, FieldValues.IsNamed, hpage, hproperty]
  rfl

theorem values_of_field {f : Provenance.Field} (h : c.rules? = some rules) (hr : rule ∈ rules)
    (hf : rule.field = some f) : f.values = overlay c.properties (ruleOwner rule.name ++ fieldOwner)
      ((layered c.properties [fieldOwner]).named?.getD {}) := by
  have hfield := field_of_loaded h hr
  rw [hf, Option.map_some] at hfield
  exact (FieldValues.named?_eq_some.1 hfield.symm).2.symm

/-- Loaded rules are those of the listed names. A rule has a field exactly when a page or a property is named
for it or in general, and the field has them. Its values come key by key from what is said for the rule, from
what is said in general and from the defaults, where the general keys name a page or a property or say no more
than the defaults; where they name none, nothing comes from them. -/
theorem fields_inherited (h : c.rules? = some rules) :
    rules.map (·.name) = c.ruleNames ∧ ∀ rule ∈ rules,
      let own := ruleOwner rule.name ++ fieldOwner
      let general := layered c.properties [fieldOwner]
      let values := layered c.properties [own, fieldOwner]
      (rule.field.isSome = true ↔ values.IsNamed) ∧
      ∀ f, rule.field = some f →
        f.values.page = values.page ∧ f.values.propertyName = values.propertyName ∧
        (general.IsNamed ∨ general = {} → f.values = values) ∧
        (¬ general.IsNamed → f.values = layered c.properties [own]) := by
  refine ⟨(loaded_as_listed h).1, fun rule hr => ⟨isSome_field h hr, fun f hf => ?_⟩⟩
  rw [values_of_field h hr hf]
  obtain ⟨hpage, hproperty⟩ := overlay_inherited c.properties (ruleOwner rule.name ++ fieldOwner)
    (layered c.properties [fieldOwner])
  refine ⟨hpage, hproperty, ?_, fun hn => by rw [FieldValues.named?_of_unnamed hn]; rfl⟩
  rintro (hn | he)
  · rw [FieldValues.named?_of_named hn]
    rfl
  · have hdefault : ¬ ({} : FieldValues).IsNamed := by decide
    have hvalues : layered c.properties [ruleOwner rule.name ++ fieldOwner, fieldOwner] =
        overlay c.properties (ruleOwner rule.name ++ fieldOwner) (layered c.properties [fieldOwner]) := rfl
    rw [hvalues, he, FieldValues.named?_of_unnamed hdefault]
    rfl

/-! ### Examples -/

/-- Groups of teams are recorded on a page, in a property and between separators. -/
def teamField (objectNumber : Option Int) (propertyName separator : String) : Provenance.Field where
  values := { page := "Ledger", objectNumber, propertyName, separator }
  characters := Pattern.nameless
  format := defaultFormat
  pattern := defaultPattern
  read_format := read_defaultFormat
  read_pattern := read_defaultPattern Pattern.nameless

theorem team_owner : ruleOwner "team" = "dynamicRole.configuration.team." := by rfl

/-- Whoever has a team role belongs to the group of the team, which a field may record. -/
def teamRule (field : Option Provenance.Field) : Rule :=
  .ofAffixes { name := "team", rolePrefix := "team-", groupPrefix := "Team", field } rfl

/-- What is recorded goes to the ledger, between semicolons and into the fourth object, if the rule does not
say otherwise; the rule says the property. -/
def ledgers : Configuration :=
  .ofSettings { properties := .ofList [
    ("authentication.trusted.addGroupToField.page", "Ledger"),
    ("authentication.trusted.addGroupToField.separator", ";"),
    ("authentication.trusted.addGroupToField.objectNumber", "3"),
    ("authentication.trusted.dynamicRole.configurations", "team"),
    ("authentication.trusted.dynamicRole.configuration.team.rolePrefix", "team-"),
    ("authentication.trusted.dynamicRole.configuration.team.groupPrefix", "Team"),
    ("authentication.trusted.dynamicRole.configuration.team.addGroupToField.propertyName", "teams"),
    ("authentication.trusted.dynamicRole.configuration.team.addGroupToField.objectNumber", "")] }

theorem ledgers_general : ledgers.generalField = .ok (some (teamField (some 3) "" ";")) := by
  refine read_of_readValues rfl ?_
  cbv

theorem ledgers_field : Provenance.Field.read ledgers.properties (ruleOwner "team" ++ fieldOwner)
    (some (teamField (some 3) "" ";")) = .ok (some (teamField (some 3) "teams" ";")) := by
  refine read_of_readValues rfl ?_
  simp only [fieldOwner, team_owner, String.reduceAppend, readValues]
  cbv

theorem ledgers_values (field : Option Provenance.Field) : ledgers.ruleValues "team" field =
    { name := "team", rolePrefix := "team-", groupPrefix := "Team", field } := by
  simp only [ruleValues, team_owner, String.reduceAppend]
  cbv

theorem ledgers_layered : layered ledgers.properties [fieldOwner] = (teamField (some 3) "" ";").values ∧
    layered ledgers.properties [ruleOwner "team" ++ fieldOwner, fieldOwner] =
      (teamField (some 3) "teams" ";").values := by
  simp only [fieldOwner, team_owner, String.reduceAppend, layered, List.foldr_cons, List.foldr_nil,
    overlay]
  exact ⟨by cbv, by cbv⟩

/-- Page, separator and object number are those said in general, and the property is that of the rule. -/
theorem ledgers_inherited : ∃ f, ledgers.rules? = some [teamRule (some f)] ∧
    (layered ledgers.properties [fieldOwner]).IsNamed ∧
    f.values = { page := "Ledger", objectNumber := some 3, propertyName := "teams", separator := ";" } := by
  have hn : ledgers.ruleNames = ["team"] := by cbv
  have hr : ledgers.rules? = some [teamRule (some (teamField (some 3) "teams" ";"))] :=
    rules?_of_values hn ledgers_general ledgers_field (ledgers_values _) (by decide)
  have hnamed : (layered ledgers.properties [fieldOwner]).IsNamed := by
    rw [ledgers_layered.1]
    decide
  obtain ⟨-, hinherited⟩ := fields_inherited hr
  obtain ⟨-, hfield⟩ := hinherited _ List.mem_cons_self
  obtain ⟨-, -, hvalues, -⟩ := hfield _ rfl
  exact ⟨_, hr, hnamed, (hvalues (.inl hnamed)).trans ledgers_layered.2⟩

/-- The entries are to stand between semicolons, if a rule does not say otherwise. -/
def scribes : Configuration :=
  .ofSettings { properties := .ofList [
    ("authentication.trusted.addGroupToField.separator", ";"),
    ("authentication.trusted.dynamicRole.configurations", "team"),
    ("authentication.trusted.dynamicRole.configuration.team.rolePrefix", "team-"),
    ("authentication.trusted.dynamicRole.configuration.team.groupPrefix", "Team"),
    ("authentication.trusted.dynamicRole.configuration.team.addGroupToField.page", "Ledger"),
    ("authentication.trusted.dynamicRole.configuration.team.addGroupToField.propertyName", "teams")] }

theorem scribes_field : Provenance.Field.read scribes.properties (ruleOwner "team" ++ fieldOwner) none =
    .ok (some (teamField none "teams" "|")) := by
  refine read_of_readValues rfl ?_
  simp only [fieldOwner, team_owner, String.reduceAppend, readValues]
  cbv

theorem scribes_values (field : Option Provenance.Field) : scribes.ruleValues "team" field =
    { name := "team", rolePrefix := "team-", groupPrefix := "Team", field } := by
  simp only [ruleValues, team_owner, String.reduceAppend]
  cbv

theorem scribes_separator : scribes.properties.get? (fieldOwner ++ "separator") = some ";" ∧
    scribes.properties.get? (ruleOwner "team" ++ fieldOwner ++ "separator") = none := by
  simp only [fieldOwner, team_owner, String.reduceAppend]
  exact ⟨by cbv, by cbv⟩

/-- The rule says nothing of a separator, and the general one is not inherited. -/
theorem scribes_default : ∃ f, scribes.rules? = some [teamRule (some f)] ∧
    scribes.properties.get? (fieldOwner ++ "separator") = some ";" ∧
    scribes.properties.get? (ruleOwner "team" ++ fieldOwner ++ "separator") = none ∧
    f.values.separator = "|" := by
  have hn : scribes.ruleNames = ["team"] := by cbv
  have hg : scribes.generalField = .ok none := by cbv
  have hr : scribes.rules? = some [teamRule (some (teamField none "teams" "|"))] :=
    rules?_of_values hn hg scribes_field (scribes_values _) (by decide)
  obtain ⟨hgeneral, hown⟩ := scribes_separator
  exact ⟨_, hr, hgeneral, hown, rfl⟩

end Configuration

end IdentityBridge
