import IdentityBridge.Assertion
import IdentityBridge.Settings

/-! Properties from which one name is taken. It is taken from both layers, and whatever does not ask for
it reads the same as before. -/

namespace IdentityBridge

namespace Properties

variable {p : Properties} {name other : String}

/-- The properties without those of a name. -/
def without (p : Properties) (name : String) : Properties := { p with
  configuration := p.configuration.erase (qualify p.configurationPrefix "." name)
  preferences := p.preferences.erase (qualify p.preferencePrefix "_" name) }

theorem platform_without : (p.without name).platform = p.platform := rfl

theorem qualify_inj {before separator : String} :
    qualify before separator name = qualify before separator other ↔ name = other := by
  unfold qualify
  split
  · rfl
  · simp

theorem get?_without : (p.without name).get? other = if other = name then none else p.get? other := by
  simp only [get?, preference?, configured?, without, Table.find?_erase, qualify_inj]
  by_cases h : other = name
  · subst h
    simp
  · simp [h, Ne.symm h]

/-! ### What other names say -/

theorem get?_without_of_ne (h : other ≠ name) : (p.without name).get? other = p.get? other := by
  rw [get?_without, if_neg h]

theorem getD_without (h : other ≠ name) (default : String) :
    (p.without name).getD other default = p.getD other default := by
  rw [getD, get?_without_of_ne h, getD]

theorem list?_without (h : other ≠ name) (separator : String) :
    (p.without name).list? other separator = p.list? other separator := by
  rw [list?, get?_without_of_ne h, list?]

end Properties

namespace Settings

/-- The settings without the properties of a name. -/
def without (s : Settings) (name : String) : Settings := { s with
  properties := s.loadedProperties.erase (Properties.qualify "authentication.trusted" "." name)
  propertyFile := none
  preferences := s.preferences.erase (Properties.qualify "trustedauth" "_" name) }

end Settings

namespace Assertion.Source

variable {s : Source} {p : Properties} {name : String}

/-- The names of the properties that assertions depend on. -/
def propertyNames : List String := [
  headers.charsetProperty, attributes.charsetProperty, "secret_field", "secret_value", uidProperty,
  nameProperty, "group_field", "group_value_separator", "logout_url"]

theorem field_without (h : name ∉ propertyNames) : s.field (p.without name) = s.field p := by
  have hc : s.charsetProperty ≠ name := by
    rintro rfl
    exact h (by cases s <;> decide)
  funext r field
  simp only [Source.field, Properties.get?_without_of_ne hc, Properties.platform_without]

theorem isTrusted_without (h : name ∉ propertyNames) (r : Request) :
    s.isTrusted (p.without name) r = s.isTrusted p r := by
  have hfield : "secret_field" ≠ name := fun he => h (he ▸ by decide)
  have hvalue : "secret_value" ≠ name := fun he => h (he ▸ by decide)
  cases s with
  | attributes => rfl
  | headers =>
    simp only [isTrusted, field_without h, Properties.get?_without_of_ne hfield,
      Properties.get?_without_of_ne hvalue]

theorem roles_without (h : name ∉ propertyNames) (r : Request) :
    s.roles (p.without name) r = s.roles p r := by
  have hgroups : "group_field" ≠ name := fun he => h (he ▸ by decide)
  have hseparator : "group_value_separator" ≠ name := fun he => h (he ▸ by decide)
  have hroles (names : List String) : s.rolesOf (p.without name) r names = s.rolesOf p r names := by
    induction names with
    | nil => rfl
    | cons first rest ih =>
      simp only [rolesOf, field_without h, Properties.getD_without hseparator,
        Properties.platform_without, ih]
  rw [roles, Properties.list?_without hgroups, hroles, roles]

/-- Requests assert the same without a property of another name. -/
theorem assertion_without (h : name ∉ propertyNames) : s.assertion (p.without name) = s.assertion p := by
  have huid : uidProperty ≠ name := fun he => h (he ▸ by decide)
  have hname : nameProperty ≠ name := fun he => h (he ▸ by decide)
  have hlogout : "logout_url" ≠ name := fun he => h (he ▸ by decide)
  have hurl : logoutUrl (p.without name) = logoutUrl p := by
    funext location
    simp only [logoutUrl, Properties.get?_without_of_ne hlogout]
  funext r
  simp only [assertion, uid, isTrusted_without h, field_without h, roles_without h, hurl,
    Properties.getD_without huid, Properties.getD_without hname]

end Assertion.Source

end IdentityBridge
