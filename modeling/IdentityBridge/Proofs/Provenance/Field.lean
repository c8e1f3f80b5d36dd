import Mathlib
import IdentityBridge.Provenance.Field
import IdentityBridge.Proofs.Outcome

/-! Reading provenance fields. A field is the one that is read from its values, and the format and the
pattern that fields have by default can be read. -/

namespace IdentityBridge.Provenance.Field

theorem ofValues_values (f : Field) : ofValues f.values f.characters = .ok f := by
  obtain ⟨values, characters, format, pattern, hf, hp⟩ := f
  unfold ofValues
  split
  · next h => cases hf.symm.trans h
  · next h =>
    cases hf.symm.trans h
    split
    · next h => cases hp.symm.trans h
    · next h =>
      cases hp.symm.trans h
      rfl

/-- Where the values of a field are what the properties give, the field is read from them. -/
theorem read_of_readValues {p : Properties} {owner : String} {parent : Option Field} {f : Field}
    (hc : f.characters = p.platform.characters)
    (h : readValues p owner ((parent.map (·.values)).getD {}) = .ok (some f.values)) :
    read p owner parent = .ok (some f) := by
  rw [read, h, Outcome.ok_bind]
  simp only [← hc, ofValues_values, Outcome.ok_bind, Outcome.pure_eq]

/-! ### The defaults -/

/-- The group, without its wiki, and the role after an equal sign. -/
def defaultFormat : Format := [.slot .groupFullName, .literal "=", .slot .role]

/-- Any characters but equal signs, at least one, as the group; an equal sign; any characters. -/
def defaultPattern : Pattern where
  node :=
    let equalSign : List Pattern.SetItem := [.point 61]
    .seq (.anchor .textStart) <|
    .seq (.group 1 (.loop .greedy 1 none (.char { items := equalSign, negated := true }))) <|
    .seq (.char { items := equalSign })
      (.loop .greedy 0 none (.char { items := [.class false .space, .class true .space] }))
  groupCount := 1
  names := [("group", 1)]

theorem read_defaultFormat : Format.read ({} : FieldValues).valueFormat = .ok defaultFormat := by cbv

theorem read_defaultPattern (characters : Pattern.CharacterNames) :
    Pattern.read ({} : FieldValues).valuePattern characters = .ok defaultPattern := by
  cbv

/-- A field of a page that is configured by no more than the page and the property. -/
def plain (page propertyName : String) : Field where
  values := { page, propertyName }
  characters := Pattern.nameless
  format := defaultFormat
  pattern := defaultPattern
  read_format := read_defaultFormat
  read_pattern := read_defaultPattern Pattern.nameless

end IdentityBridge.Provenance.Field
