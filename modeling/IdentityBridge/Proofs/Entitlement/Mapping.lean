import IdentityBridge.Proofs.Entitlement.Exact
import IdentityBridge.Proofs.Properties.Group

/-! Groups that the static mapping writes in several ways. Roles are collected under each text that names
a group, and then the texts of one group replace each other: the one that comes up last, counted from
where each comes up first, decides alone. So the roles listed for a group all count where the mapping
writes the group in one way, and may be lost where it does not. -/

namespace IdentityBridge

namespace Configuration

variable {c : Configuration} {g : Reference} {text role : String}

/-- The entries of the static mapping: groups as they are written, each with a role. -/
def mappingEntries (c : Configuration) : List (String × String) :=
  ((c.properties.list? "groupsMapping" listSeparator).getD []).filterMap Properties.pairEntry?

/-- Some entry for a group lists a role. -/
def Lists (c : Configuration) (g : Reference) (role : String) : Prop :=
  ∃ text, (text, role) ∈ c.mappingEntries ∧ c.resolve text = g

/-- The texts that name a group in the mapping, in the order in which they come up first. -/
def spellings (c : Configuration) (g : Reference) : List String :=
  (c.mappingEntries.map Prod.fst).eraseDups.filter fun text => c.resolve text = g

theorem mem_spellings :
    text ∈ c.spellings g ↔ (∃ role, (text, role) ∈ c.mappingEntries) ∧ c.resolve text = g := by
  simp [spellings]

theorem spellings_ne_nil : c.spellings g ≠ [] ↔ ∃ role, c.Lists g role := by
  constructor
  · intro h
    obtain ⟨text, ht⟩ := List.exists_mem_of_ne_nil _ h
    obtain ⟨⟨role, he⟩, hg⟩ := mem_spellings.1 ht
    exact ⟨role, text, he, hg⟩
  · rintro ⟨role, text, he, hg⟩
    exact List.ne_nil_of_mem (mem_spellings.2 ⟨⟨role, he⟩, hg⟩)

theorem groupMappings_eq (c : Configuration) :
    c.groupMappings = Properties.group c.mappingEntries := by
  unfold groupMappings mappingEntries Properties.groups?
  cases c.properties.list? "groupsMapping" listSeparator with
  | none => rfl
  | some entries => simp

/-- The last spelling of a group is looked up for it. -/
theorem find?_mappedGroups (c : Configuration) (g : Reference) :
    c.mappedGroups.find? g =
      (c.spellings g).getLast?.map fun text => (c.groupMappings.find? text).getD [] := by
  -- both sides come from the last entry whose text names the group
  have hlast : (c.spellings g).getLast? =
      (c.groupMappings.entries.reverse.find? fun e => c.resolve e.1 = g).map Prod.fst := by
    rw [spellings, ← Properties.keys_group, ← groupMappings_eq, List.getLast?_filter, Table.keys,
      ← List.map_reverse, List.find?_map]
    rfl
  have hfound : c.mappedGroups.find? g =
      (c.groupMappings.entries.reverse.find? fun e => c.resolve e.1 = g).map Prod.snd := by
    rw [mappedGroups, Table.find?_ofList, Table.findIn_eq_find?, ← List.map_reverse, List.find?_map,
      Option.map_map]
    rfl
  rw [hlast, hfound, Option.map_map]
  refine Option.map_congr fun e he => ?_
  have hm : e ∈ c.groupMappings.entries := List.mem_reverse.1 (List.mem_of_find?_eq_some he)
  have hv : c.groupMappings.find? e.1 = some e.2 := Table.find?_eq_some.2 hm
  simp [hv]

theorem mem_find?_groupMappings :
    role ∈ (c.groupMappings.find? text).getD [] ↔ (text, role) ∈ c.mappingEntries := by
  rw [groupMappings_eq, Properties.mem_group]

end Configuration

namespace Entitlement

open IdentityBridge.Configuration

variable {c : Configuration} {a : Assertion} {roles : List String} {d : Directory} {g : Reference}

/-- A group is granted by what the mapping lists under its last spelling. -/
theorem granted_iff : Granted c roles g ↔ ∃ text, (c.spellings g).getLast? = some text ∧
    ∃ role ∈ roles, (text, role) ∈ c.mappingEntries := by
  simp only [Granted, find?_mappedGroups, Option.map_eq_some_iff]
  constructor
  · rintro ⟨_, ⟨text, ht, rfl⟩, role, hm, hr⟩
    exact ⟨text, ht, role, hr, mem_find?_groupMappings.1 hm⟩
  · rintro ⟨text, ht, role, hr, he⟩
    exact ⟨_, ⟨text, ht, rfl⟩, role, mem_find?_groupMappings.2 he, hr⟩

/-- Every group of the mapping that is not granted is withheld. -/
theorem withheld_iff : Withheld c roles g ↔ (∃ role, c.Lists g role) ∧ ¬ Granted c roles g := by
  have hmapped : (∃ role, c.Lists g role) ↔ ∃ mapped, c.mappedGroups.find? g = some mapped := by
    simp only [← spellings_ne_nil, find?_mappedGroups, Option.map_eq_some_iff,
      List.getLast?_eq_some_iff]
    constructor
    · intro h
      exact ⟨_, _, ⟨_, (List.dropLast_concat_getLast h).symm⟩, rfl⟩
    · rintro ⟨_, text, ⟨earlier, he⟩, -⟩
      simp [he]
  rw [hmapped]
  constructor
  · intro h
    exact ⟨h.imp fun _ => And.left, not_granted_of_withheld h⟩
  · rintro ⟨⟨mapped, hm⟩, hn⟩
    exact ⟨mapped, hm, fun role hr hh => hn ⟨mapped, hm, role, hr, hh⟩⟩

/-- Where the mapping writes a group in one way, any role that it lists for the group grants it. -/
theorem granted_iff_lists (h : (c.spellings g).length ≤ 1) :
    Granted c roles g ↔ ∃ role ∈ roles, c.Lists g role := by
  rw [granted_iff]
  constructor
  · rintro ⟨text, ht, role, hr, he⟩
    have hg := (mem_spellings.1 (List.mem_of_getLast? ht)).2
    exact ⟨role, hr, text, he, hg⟩
  · rintro ⟨role, hr, text, he, hg⟩
    have hm : text ∈ c.spellings g := mem_spellings.2 ⟨⟨role, he⟩, hg⟩
    obtain ⟨only, ho⟩ := List.length_eq_one_iff.1 (Nat.le_antisymm h (List.length_pos_of_mem hm))
    rw [ho, List.mem_singleton] at hm
    subst hm
    exact ⟨text, by rw [ho]; rfl, role, hr, he⟩

/-- Without rules a delta is what the static mapping says. -/
theorem delta_of_no_rules (hn : c.rules = .ok none ∨ c.rules? = some []) (user : Reference) :
    delta c a user d = (static c a).map fun δ => (some δ, d) := by
  rw [delta]
  cases static c a with
  | error fault => rfl
  | ok δ => rcases hn.imp_right rules_of_loaded with hn | hn <;> rw [hn] <;> rfl

/-- The static mapping alone joins the groups that it grants and leaves those that it withholds. -/
theorem static_exact (hr : a.roles = .ok (some roles)) :
    ∃ δ, static c a = .ok δ ∧ δ.creates = [] ∧ (∀ g, g ∈ δ.joins ↔ Granted c roles g) ∧
      ∀ g, g ∈ δ.leaves ↔ Withheld c roles g := by
  obtain ⟨δ, hs, hrec⟩ := static_records (c := c) hr
  have hnone : ∀ g, g ∉ δ.creates := fun g hg => ((hrec.creates g).1 hg).1
  refine ⟨δ, hs, List.eq_nil_iff_forall_not_mem.2 hnone, fun g => ?_, fun g => ?_⟩
  · rw [hrec.joins, Option.getD_some, decision_eq_true]
    simp [hnone]
  · rw [hrec.leaves, Option.getD_some, decision_eq_false]

/-- Without rules a user joins the groups whose last spelling is listed with one of the roles of the user,
and leaves the other groups of the mapping. A group that the mapping writes in one way is joined for any
role that it lists for the group, and is left if it lists none of the roles. -/
theorem last_spelling_decides (hr : a.roles = .ok (some roles))
    (hn : c.rules = .ok none ∨ c.rules? = some []) (user : Reference) :
    ∃ δ, delta c a user d = .ok (some δ, d) ∧ δ.creates = [] ∧
      (∀ g, g ∈ δ.joins ↔ ∃ text, (c.spellings g).getLast? = some text ∧
        ∃ role ∈ roles, (text, role) ∈ c.mappingEntries) ∧
      (∀ g, g ∈ δ.leaves ↔ (∃ role, c.Lists g role) ∧ g ∉ δ.joins) ∧
      ∀ g, (c.spellings g).length ≤ 1 →
        (g ∈ δ.joins ↔ ∃ role ∈ roles, c.Lists g role) ∧
        (g ∈ δ.leaves ↔ (∃ role, c.Lists g role) ∧ ¬ ∃ role ∈ roles, c.Lists g role) := by
  obtain ⟨δ, hs, hcreates, hjoins, hleaves⟩ := static_exact (c := c) hr
  have hδ : delta c a user d = .ok (some δ, d) := by
    rw [delta_of_no_rules hn, hs]
    rfl
  refine ⟨δ, hδ, hcreates, fun g => ?_, fun g => ?_, fun g hg => ⟨?_, ?_⟩⟩
  · rw [hjoins, granted_iff]
  · rw [hleaves, hjoins, withheld_iff]
  · rw [hjoins, granted_iff_lists hg]
  · rw [hleaves, withheld_iff, granted_iff_lists hg]

/-! ### An example -/

/-- The staff is written in two ways, each time with another role; the guests are written in one. -/
def doorbook : Configuration := .ofSettings { properties := .ofList [
  ("authentication.trusted.groupsMapping", "Staff=badge|Guests=visit|XWiki.Staff=key|Guests=badge")] }

/-- Somebody with a badge. -/
def badged : Assertion where
  uid := .ok none
  name := .ok none
  property := fun _ => .ok none
  roles := .ok (some ["badge"])
  logoutUrl := fun _ => none

def staffGroup : Reference := .inSpace "xwiki" "XWiki" "Staff"

def guestGroup : Reference := .inSpace "xwiki" "XWiki" "Guests"

theorem doorbook_entries : doorbook.mappingEntries =
    [("Staff", "badge"), ("Guests", "visit"), ("XWiki.Staff", "key"), ("Guests", "badge")] := by cbv

theorem doorbook_rules : doorbook.rules? = some [] := by
  have hn : doorbook.ruleNames = [] := by cbv
  rw [Configuration.rules?, Configuration.loadRules, if_pos hn]
  rfl

theorem guests_spellings : doorbook.spellings guestGroup = ["Guests"] := by cbv

theorem staff_spellings : doorbook.spellings staffGroup = ["Staff", "XWiki.Staff"] := by cbv

theorem staff_lists_badge : doorbook.Lists staffGroup "badge" :=
  ⟨"Staff", by simp [doorbook_entries], by cbv⟩

/-- The mapping lists the badge for the staff, and yet takes its holder out of it. -/
theorem badge_overwritten : ∃ δ, delta doorbook badged bob .empty = .ok (some δ, .empty) ∧
    doorbook.Lists staffGroup "badge" ∧ staffGroup ∉ δ.joins ∧ staffGroup ∈ δ.leaves := by
  have hr : badged.roles = .ok (some ["badge"]) := rfl
  obtain ⟨δ, hs, -, hjoins, hleaves⟩ := static_exact (c := doorbook) hr
  have hδ : delta doorbook badged bob .empty = .ok (some δ, .empty) := by
    rw [delta_of_no_rules (.inr doorbook_rules), hs]
    rfl
  have hn : ¬ Granted doorbook ["badge"] staffGroup := by
    simp [granted_iff, staff_spellings, doorbook_entries]
  refine ⟨δ, hδ, staff_lists_badge, mt (hjoins _).1 hn, (hleaves _).2 (withheld_iff.2 ?_)⟩
  exact ⟨⟨_, staff_lists_badge⟩, hn⟩

/-- The guests are written in one way, and either role makes one of them. -/
theorem badge_admits : badged.roles = .ok (some ["badge"]) ∧ doorbook.rules? = some [] ∧
    (doorbook.spellings guestGroup).length ≤ 1 ∧
    ∃ δ, delta doorbook badged bob .empty = .ok (some δ, .empty) ∧ guestGroup ∈ δ.joins := by
  have hr : badged.roles = .ok (some ["badge"]) := rfl
  have hg : (doorbook.spellings guestGroup).length ≤ 1 := by simp [guests_spellings]
  have hl : doorbook.Lists guestGroup "badge" :=
    ⟨"Guests", by simp [doorbook_entries], by cbv⟩
  obtain ⟨δ, hδ, -, -, -, h⟩ :=
    last_spelling_decides (d := .empty) hr (.inr doorbook_rules) bob
  exact ⟨hr, doorbook_rules, hg, δ, hδ, (h guestGroup hg).1.2 ⟨"badge", by simp, hl⟩⟩

end Entitlement

end IdentityBridge
