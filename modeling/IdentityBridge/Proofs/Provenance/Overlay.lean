import IdentityBridge.Provenance.Field
import IdentityBridge.Proofs.Outcome

/-! The values of a provenance field lie in layers. What the properties of an owner say lies over what is
inherited, key by key, and a field is read where the result names a page or a property. -/

namespace IdentityBridge

open Outcome

namespace Provenance

namespace FieldValues

/-- A page or a property is named. -/
def IsNamed (v : FieldValues) : Prop := v.page ≠ "" ∨ v.propertyName ≠ ""

instance : DecidablePred IsNamed := fun _ => inferInstanceAs (Decidable (_ ∨ _))

/-- The values, if they name a page or a property. -/
def named? (v : FieldValues) : Option FieldValues := if v.IsNamed then some v else none

variable {v : FieldValues}

theorem named?_of_named (h : v.IsNamed) : v.named? = some v := if_pos h

theorem named?_of_unnamed (h : ¬ v.IsNamed) : v.named? = none := if_neg h

theorem named?_eq_some {v' : FieldValues} : v.named? = some v' ↔ v.IsNamed ∧ v = v' := by
  by_cases h : v.IsNamed <;> simp [named?, h]

theorem isSome_named? : v.named?.isSome = true ↔ v.IsNamed := by
  by_cases h : v.IsNamed <;> simp [named?, h]

theorem not_isNamed : ¬ v.IsNamed ↔ v.page = "" ∧ v.propertyName = "" := by
  simp [IsNamed]

end FieldValues

namespace Field

variable {p : Properties} {owner : String} {inherited : FieldValues} {parent field : Option Field}

/-- What the properties of an owner say, key by key, and what is inherited where they say nothing. An empty
object number says nothing. -/
def overlay (p : Properties) (owner : String) (inherited : FieldValues) : FieldValues where
  page := p.getD (owner ++ "page") inherited.page
  className := p.getD (owner ++ "className") inherited.className
  objectNumber :=
    match (p.get? (owner ++ "objectNumber")).filter (· ≠ "") with
    | some text => Text.Integer.read text
    | none => inherited.objectNumber
  propertyName := p.getD (owner ++ "propertyName") inherited.propertyName
  separator := p.getD (owner ++ "separator") inherited.separator
  valuePattern := p.getD (owner ++ "valueRegex") inherited.valuePattern
  valueFormat := p.getD (owner ++ "valueFormat") inherited.valueFormat

/-- Each value from the first owner that says something of it, or else by default. -/
def layered (p : Properties) (owners : List String) : FieldValues := owners.foldr (overlay p) {}

theorem objectNumber_of_ok {number n : Option Int} {text : Option String}
    (h : objectNumber owner number text = .ok n) :
    n = match text.filter (· ≠ "") with
      | some text => Text.Integer.read text
      | none => number := by
  cases text with
  | none =>
    cases h
    rfl
  | some text =>
    by_cases ht : text = ""
    · rw [objectNumber, if_pos ht] at h
      cases h
      simp [Option.filter, ht]
    · rw [objectNumber, if_neg ht] at h
      cases hn : Text.Integer.read text with
      | none =>
        rw [hn] at h
        cases h
      | some n =>
        rw [hn] at h
        cases h
        simp [Option.filter, ht, hn]

/-- The values that are read are those that lie over the inherited ones, if these are named. -/
theorem readValues_overlay {values : Option FieldValues}
    (h : readValues p owner inherited = .ok values) : values = (overlay p owner inherited).named? := by
  by_cases hu : (overlay p owner inherited).IsNamed
  · have hn : ¬ (p.getD (owner ++ "page") inherited.page = "" ∧
        p.getD (owner ++ "propertyName") inherited.propertyName = "") :=
      Decidable.not_and_iff_or_not.2 hu
    rw [readValues, if_neg hn, bind_eq_ok] at h
    obtain ⟨number, hnumber, h⟩ := h
    cases h
    rw [FieldValues.named?_of_named hu, objectNumber_of_ok hnumber]
    rfl
  · obtain ⟨hpage, hproperty⟩ := FieldValues.not_isNamed.1 hu
    rw [readValues, if_pos ⟨hpage, hproperty⟩] at h
    cases h
    rw [FieldValues.named?_of_unnamed hu]

theorem values_of_ofValues {values : FieldValues} {characters : Pattern.CharacterNames} {f : Field}
    (h : ofValues values characters = .ok f) : f.values = values := by
  unfold ofValues at h
  split at h
  · cases h
  · split at h
    · cases h
    · cases h
      rfl

theorem read_overlay (h : read p owner parent = .ok field) : field.map (·.values) =
    (overlay p owner ((parent.map (·.values)).getD {})).named? := by
  rw [read, bind_eq_ok] at h
  obtain ⟨values, hvalues, h⟩ := h
  rw [← readValues_overlay hvalues]
  cases values with
  | none =>
    cases h
    rfl
  | some values =>
    obtain ⟨f, hf, h⟩ := bind_eq_ok.1 h
    cases h
    rw [Option.map_some, values_of_ofValues hf]

end Field

end Provenance

end IdentityBridge
