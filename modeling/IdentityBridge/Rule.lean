import IdentityBridge.Provenance.Field

/-! Dynamic role rules. A rule selects roles by prefix, suffix and pattern, and derives a group name
from each: by swapping the role affixes for group affixes, or by replacing the match of its pattern.
It also recognises the groups it may have produced, so that lost ones can be taken away. -/

namespace IdentityBridge

/-- What a rule is made of. -/
structure RuleValues where
  name : String
  rolePrefix : String := ""
  roleSuffix : String := ""
  /-- Matches whole roles; every role if empty. -/
  rolePattern : String := ""
  /-- A template for the group name; without it, or without a pattern, the affixes are swapped. -/
  replacement : String := ""
  groupPrefix : String := ""
  groupSuffix : String := ""
  /-- Whether missing groups are created. -/
  autoCreate : Bool := true
  /-- Where the created groups are recorded. -/
  field : Option Provenance.Field := none
  /-- The characters that the pattern may name. -/
  characters : Pattern.CharacterNames := Pattern.nameless

/-- A rule whose pattern, if it has one, is read. -/
structure Rule extends RuleValues where
  pattern : Option Pattern
  read_pattern : pattern = if rolePattern = "" then none else Pattern.read? rolePattern characters
  isSome_pattern : rolePattern ≠ "" → pattern.isSome

namespace Rule

/-- The pattern of a rule follows from what the rule is made of. -/
theorem eq_of_values : ∀ {r r' : Rule}, r.toRuleValues = r'.toRuleValues → r = r'
  | ⟨_, _, hp, _⟩, ⟨_, _, hp', _⟩, h => by
    cases h
    cases hp.trans hp'.symm
    rfl

/-- Read the pattern of a rule; there is no rule if it cannot be read. -/
def ofValues (values : RuleValues) : Except Pattern.Refusal Rule :=
  if h : values.rolePattern = "" then
    .ok { values with pattern := none, read_pattern := by simp [h], isSome_pattern := by simp [h] }
  else
    match hp : Pattern.read values.rolePattern values.characters with
    | .ok pattern =>
      .ok { values with
        pattern := some pattern
        read_pattern := by simp [h, Pattern.read?, hp, Except.toOption]
        isSome_pattern := by simp }
    | .error cause => .error cause

def ofValues? (values : RuleValues) : Option Rule := (ofValues values).toOption

/-- A rule without group affixes would recognise every group as its own. -/
def isUnsafe (r : Rule) : Bool := r.groupPrefix = "" && r.groupSuffix = ""

/-- A text starts with one text and ends with another, and the two do not overlap in it. -/
def hasAffixes (front back text : List Char) : Bool :=
  front.isPrefixOf text && back.isSuffixOf text && front.length + back.length ≤ text.length

/-- Whether the rule applies to a role. A rule without any condition applies to none. -/
def matchesRole (r : Rule) (role : String) : Bool :=
  !(r.rolePrefix = "" && r.roleSuffix = "" && r.rolePattern = "") &&
    hasAffixes r.rolePrefix.toList r.roleSuffix.toList role.toList &&
    r.pattern.all fun p => (p.matchWhole? role).isSome

/-- The part of a text of `size` characters that ends before a suffix of the given length. A suffix
longer than the text is counted once more from its end. -/
def endBefore (size suffix : Nat) : Nat :=
  if suffix ≤ size then size - suffix else 2 * size - suffix

/-- What remains of a role without its affixes. -/
def radical (r : Rule) (role : String) : List Char :=
  (role.toList.take (endBefore role.length r.roleSuffix.length)).drop r.rolePrefix.length

/-- The group name that swaps the affixes. -/
def affixName (r : Rule) (role : String) : String :=
  String.ofList (r.groupPrefix.toList ++ r.radical role ++ r.groupSuffix.toList)

/-- The name of the group of a role. -/
def groupName (r : Rule) (role : String) : Except Pattern.TemplateError String :=
  match r.pattern with
  | some pattern =>
    if r.replacement = "" then .ok (r.affixName role)
    else pattern.replaceFirst r.replacement role
  | none => .ok (r.affixName role)

/-- A rule without pattern or replacement swaps the affixes. -/
theorem groupName_of_affixed {r : Rule} (h : r.rolePattern = "" ∨ r.replacement = "")
    (role : String) : r.groupName role = .ok (r.affixName role) := by
  unfold groupName
  cases hp : r.pattern with
  | none => rfl
  | some pattern =>
    refine if_pos (h.resolve_left fun h => ?_)
    rw [r.read_pattern, if_pos h] at hp
    cases hp

/-- The group prefix without its wiki. -/
def unqualifiedPrefix (r : Rule) : String :=
  match Text.Cut.first ':' r.groupPrefix with
  | some (_, rest) => rest
  | none => r.groupPrefix

/-- The names by which a group may have been derived: its local form, and its page name if it lies
directly in the default space. -/
def candidates (group : Reference) (defaultSpace : String) : List String :=
  group.localForm :: if group.spaces = [defaultSpace] then [group.name] else []

/-- Whether a name starts and ends like the group names of the rule; the two may overlap. -/
def recognizes (r : Rule) (name : String) : Bool :=
  r.unqualifiedPrefix.toList.isPrefixOf name.toList && r.groupSuffix.toList.isSuffixOf name.toList

/-- Whether a group looks like one of the rule. -/
def matchesGroup (r : Rule) (group : Reference) (defaultSpace : String) : Bool :=
  (candidates group defaultSpace).any r.recognizes

/-- The rule in words. -/
def describe (r : Rule) : String :=
  "name: " ++ r.name ++ ", role prefix: " ++ r.rolePrefix ++ ", role suffix: " ++ r.roleSuffix ++
    ", role regex: " ++ r.rolePattern ++ ", replacement: " ++ r.replacement ++
    ", group prefix: " ++ r.groupPrefix ++ ", group suffix: " ++ r.groupSuffix ++
    ", auto create groups: " ++ (if r.autoCreate then "True" else "False")

end Rule

end IdentityBridge
