import IdentityBridge.Assertion
import IdentityBridge.Configuration
import IdentityBridge.Directory.Membership
import IdentityBridge.Provenance.Batch
import IdentityBridge.Text.Order

/-! The groups that a user is entitled to. The static mappings grant or withhold groups by role. The
dynamic rules then derive one more group from each role, and take away the groups that look derived but
no longer are. Derived groups that may be created are recorded where their rule says. -/

namespace IdentityBridge

namespace Configuration

/-- The roles that grant membership, for each group. -/
def mappedGroups (c : Configuration) : Table Reference (List String) :=
  Table.ofList (c.groupMappings.entries.map fun (group, roles) => (c.resolve group, roles))

end Configuration

namespace Entitlement

/-- What the static mappings decide. -/
def static (c : Configuration) (a : Assertion) : Except Fault Delta :=
  c.mappedGroups.entries.foldlM (fun delta (group, roles) => do
    return delta.addStatic group (← a.holdsAny roles)) {}

/-- The rule that is responsible for a role: the first that applies to it. -/
def ruleFor? (rules : List Rule) (role : String) : Option Rule := rules.find? (·.matchesRole role)

/-- The group that a rule derives from a role. -/
def derivedGroup (c : Configuration) (rule : Rule) (role : String) : Except Fault Reference :=
  match rule.groupName role with
  | .ok name => .ok (c.resolve name)
  | .error e => .error (.template e)

/-- Derive the group of a role and record it. -/
def addRole (c : Configuration) (rules : List Rule) (d : Directory)
    (state : Delta × Provenance.Batch) (role : String) : Except Fault (Delta × Provenance.Batch) :=
  match ruleFor? rules role with
  | none => .ok state
  | some rule => do
    let (delta, batch) := state
    let group ← derivedGroup c rule role
    match delta.addDynamic? group rule.autoCreate with
    | none => return (delta, batch)
    | some delta =>
      match rule.field with
      | some field => return (delta, if rule.autoCreate then batch.add d field group role else batch)
      | none => return (delta, batch)

/-- Derive the groups of all roles, taken in order. -/
def addRoles (c : Configuration) (rules : List Rule) (d : Directory) (roles : List String)
    (delta : Delta) : Except Fault (Delta × Provenance.Batch) :=
  (Text.sortSet roles).foldlM (addRole c rules d)
    (delta, { mainWiki := c.mainWiki, defaultSpace := c.userSpace })

/-- Take away the groups of the user that look derived and are not. -/
def dropLost (c : Configuration) (rules : List Rule) (current : List Reference) (delta : Delta) :
    Delta :=
  (delta.removalCandidates current).foldl (fun delta group =>
    if rules.any (·.matchesGroup group c.userSpace) then (delta.removeDynamic? group).getD delta
    else delta) delta

/-- The groups to join and to leave, unless roles or groups of the user cannot be told, and the
directory with the records of derived groups. -/
def delta (c : Configuration) (a : Assertion) (user : Reference) (d : Directory) :
    Except Fault (Option Delta × Directory) := do
  let delta ← static c a
  match ← c.rules with
  | none | some [] => return (some delta, d)
  | some rules =>
    match ← a.roles with
    | none => return (none, d)
    | some roles =>
      let (delta, batch) ← addRoles c rules d roles delta
      let d := batch.save d
      match d.groups user with
      | .error _ => return (none, d)
      | .ok current => return (some (dropLost c rules current delta), d)

end Entitlement

end IdentityBridge
